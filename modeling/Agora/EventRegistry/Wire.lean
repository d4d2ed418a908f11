/-
This file compares what the registry sends with what the payment contract reads.

The payment contract has its own copy of the registry's types and of its interface. The
copy has fallen behind: the registry's events have fields that the copy lacks, its tiers
lack fields that the copy has, and one function of the copy has a parameter more. Since a
struct is read only from a map with exactly its field names, no stored event is ever read.
-/

import Agora.Soroban.Wire
import Agora.EventRegistry.Contract

namespace Agora.EventRegistry

open Soroban
open TicketPayment (EventId TierId EventStatus AuctionConfig Milestone)

/-! ### Types that both contracts declare alike -/

def eventStatusCodec : Codec EventStatus :=
  .variant
    (fun
      | .active => "Active"
      | .inactive => "Inactive"
      | .cancelled => "Cancelled")
    [.active, .inactive, .cancelled] (by rintro (_ | _ | _) <;> rfl)

def milestoneCodec : Codec Milestone :=
  .struct
    ((Fields.cons "sales_threshold" .i128 <| .cons "release_percent" .u32 .nil).via
      (fun value => (value.salesThreshold, value.releasePercent, ()))
      (fun (salesThreshold, releasePercent, _) => ⟨salesThreshold, releasePercent⟩) fun _ => rfl)
    (by decide)

def auctionConfigCodec : Codec AuctionConfig :=
  .struct
    ((Fields.cons "start_price" .i128 <| .cons "end_time" .u64 <|
        .cons "min_increment" .i128 .nil).via
      (fun value => (value.startPrice, value.endTime, value.minIncrement, ()))
      (fun (startPrice, endTime, minIncrement, _) => ⟨startPrice, endTime, minIncrement⟩)
      fun _ => rfl)
    (by decide)

/-! ### What the registry sends -/

namespace Wire

structure TicketTier where
  name : String
  price : Int
  tierLimit : Int
  currentSold : Int
  isRefundable : Bool
  auctionConfig : List AuctionConfig
  loyaltyMultiplier : Nat
  maxPerUser : Nat

structure EventInfo where
  eventId : String
  name : String
  organizerAddress : Address
  paymentAddress : Address
  platformFeePercent : Nat
  isActive : Bool
  status : EventStatus
  createdAt : Nat
  metadataCid : String
  maxSupply : Int
  currentSupply : Int
  milestonePlan : Option (List Milestone)
  tiers : Table TierId TicketTier
  refundDeadline : Nat
  restockingFee : Int
  resaleCapBps : Option Nat
  isPostponed : Bool
  gracePeriodEnd : Nat
  minSalesTarget : Int
  targetDeadline : Nat
  goalMet : Bool
  customFeeBps : Option Nat
  bannerCid : Option String
  tags : Option (List String)
  categoryIds : Option (List Nat)
  startTime : Nat
  isPrivate : Bool
  endTime : Nat
  transferLockDuration : Nat
  acceptedTokens : List Address
  useGlobalWhitelist : Bool
  feedbackCid : Option String
  cancellationReason : Option String
  referralRateBps : Nat

def TicketTier.fields : Fields TicketTier :=
  Fields.via (
    .cons "name" .string <|
    .cons "price" .i128 <|
    .cons "tier_limit" .i128 <|
    .cons "current_sold" .i128 <|
    .cons "is_refundable" .bool <|
    .cons "auction_config" auctionConfigCodec.vec <|
    .cons "loyalty_multiplier" .u32 <|
    .cons "max_per_user" .u32 <|
    .nil)
    (fun value => (
      value.name, value.price, value.tierLimit, value.currentSold, value.isRefundable,
      value.auctionConfig, value.loyaltyMultiplier, value.maxPerUser, ()))
    (fun (
      name, price, tierLimit, currentSold, isRefundable, auctionConfig, loyaltyMultiplier,
      maxPerUser, _) => ⟨
      name, price, tierLimit, currentSold, isRefundable, auctionConfig, loyaltyMultiplier,
      maxPerUser⟩)
    fun _ => rfl

def ticketTierCodec : Codec TicketTier :=
  .struct TicketTier.fields (by decide)

def EventInfo.fields : Fields EventInfo :=
  Fields.via (
    .cons "event_id" .string <|
    .cons "name" .string <|
    .cons "organizer_address" .address <|
    .cons "payment_address" .address <|
    .cons "platform_fee_percent" .u32 <|
    .cons "is_active" .bool <|
    .cons "status" eventStatusCodec <|
    .cons "created_at" .u64 <|
    .cons "metadata_cid" .string <|
    .cons "max_supply" .i128 <|
    .cons "current_supply" .i128 <|
    .cons "milestone_plan" (.option milestoneCodec.vec (by rintro _ ⟨⟩)) <|
    .cons "tiers" ticketTierCodec.dictionary <|
    .cons "refund_deadline" .u64 <|
    .cons "restocking_fee" .i128 <|
    .cons "resale_cap_bps" (.option .u32 (by rintro _ ⟨⟩)) <|
    .cons "is_postponed" .bool <|
    .cons "grace_period_end" .u64 <|
    .cons "min_sales_target" .i128 <|
    .cons "target_deadline" .u64 <|
    .cons "goal_met" .bool <|
    .cons "custom_fee_bps" (.option .u32 (by rintro _ ⟨⟩)) <|
    .cons "banner_cid" (.option .string (by rintro _ ⟨⟩)) <|
    .cons "tags" (.option Codec.string.vec (by rintro _ ⟨⟩)) <|
    .cons "category_ids" (.option Codec.u32.vec (by rintro _ ⟨⟩)) <|
    .cons "start_time" .u64 <|
    .cons "is_private" .bool <|
    .cons "end_time" .u64 <|
    .cons "transfer_lock_duration" .u64 <|
    .cons "accepted_tokens" Codec.address.vec <|
    .cons "use_global_whitelist" .bool <|
    .cons "feedback_cid" (.option .string (by rintro _ ⟨⟩)) <|
    .cons "cancellation_reason" (.option .string (by rintro _ ⟨⟩)) <|
    .cons "referral_rate_bps" .u32 <|
    .nil)
    (fun value => (
      value.eventId, value.name, value.organizerAddress, value.paymentAddress,
      value.platformFeePercent, value.isActive, value.status, value.createdAt, value.metadataCid,
      value.maxSupply, value.currentSupply, value.milestonePlan, value.tiers,
      value.refundDeadline, value.restockingFee, value.resaleCapBps, value.isPostponed,
      value.gracePeriodEnd, value.minSalesTarget, value.targetDeadline, value.goalMet,
      value.customFeeBps, value.bannerCid, value.tags, value.categoryIds, value.startTime,
      value.isPrivate, value.endTime, value.transferLockDuration, value.acceptedTokens,
      value.useGlobalWhitelist, value.feedbackCid, value.cancellationReason,
      value.referralRateBps, ()))
    (fun (
      eventId, name, organizerAddress, paymentAddress, platformFeePercent, isActive, status,
      createdAt, metadataCid, maxSupply, currentSupply, milestonePlan, tiers, refundDeadline,
      restockingFee, resaleCapBps, isPostponed, gracePeriodEnd, minSalesTarget, targetDeadline,
      goalMet, customFeeBps, bannerCid, tags, categoryIds, startTime, isPrivate, endTime,
      transferLockDuration, acceptedTokens, useGlobalWhitelist, feedbackCid, cancellationReason,
      referralRateBps, _) => ⟨
      eventId, name, organizerAddress, paymentAddress, platformFeePercent, isActive, status,
      createdAt, metadataCid, maxSupply, currentSupply, milestonePlan, tiers, refundDeadline,
      restockingFee, resaleCapBps, isPostponed, gracePeriodEnd, minSalesTarget, targetDeadline,
      goalMet, customFeeBps, bannerCid, tags, categoryIds, startTime, isPrivate, endTime,
      transferLockDuration, acceptedTokens, useGlobalWhitelist, feedbackCid, cancellationReason,
      referralRateBps⟩)
    fun _ => rfl

def eventInfoCodec : Codec EventInfo :=
  .struct EventInfo.fields (by decide)

theorem eventInfoCodec_solid (info : EventInfo) : eventInfoCodec.encode info ≠ .void :=
  Codec.struct_solid _

end Wire

/-! ### What the payment contract reads -/

namespace Mirror

structure TicketTier where
  name : String
  price : Int
  earlyBirdPrice : Int
  earlyBirdDeadline : Nat
  usdPrice : Int
  tierLimit : Int
  currentSold : Int
  isRefundable : Bool
  auctionConfig : List AuctionConfig
  loyaltyMultiplier : Nat

structure EventInfo where
  eventId : String
  name : String
  organizerAddress : Address
  paymentAddress : Address
  platformFeePercent : Nat
  isActive : Bool
  status : EventStatus
  createdAt : Nat
  metadataCid : String
  maxSupply : Int
  currentSupply : Int
  milestonePlan : Option (List Milestone)
  tiers : Table TierId TicketTier
  refundDeadline : Nat
  restockingFee : Int
  resaleCapBps : Option Nat
  minSalesTarget : Int
  targetDeadline : Nat
  goalMet : Bool
  customFeeBps : Option Nat
  bannerCid : Option String
  tags : Option (List String)
  startTime : Nat
  endTime : Nat
  acceptedTokens : List Address
  useGlobalWhitelist : Bool
  referralRateBps : Nat

def TicketTier.fields : Fields TicketTier :=
  Fields.via (
    .cons "name" .string <|
    .cons "price" .i128 <|
    .cons "early_bird_price" .i128 <|
    .cons "early_bird_deadline" .u64 <|
    .cons "usd_price" .i128 <|
    .cons "tier_limit" .i128 <|
    .cons "current_sold" .i128 <|
    .cons "is_refundable" .bool <|
    .cons "auction_config" auctionConfigCodec.vec <|
    .cons "loyalty_multiplier" .u32 <|
    .nil)
    (fun value => (
      value.name, value.price, value.earlyBirdPrice, value.earlyBirdDeadline, value.usdPrice,
      value.tierLimit, value.currentSold, value.isRefundable, value.auctionConfig,
      value.loyaltyMultiplier, ()))
    (fun (
      name, price, earlyBirdPrice, earlyBirdDeadline, usdPrice, tierLimit, currentSold,
      isRefundable, auctionConfig, loyaltyMultiplier, _) => ⟨
      name, price, earlyBirdPrice, earlyBirdDeadline, usdPrice, tierLimit, currentSold,
      isRefundable, auctionConfig, loyaltyMultiplier⟩)
    fun _ => rfl

def ticketTierCodec : Codec TicketTier :=
  .struct TicketTier.fields (by decide)

def EventInfo.fields : Fields EventInfo :=
  Fields.via (
    .cons "event_id" .string <|
    .cons "name" .string <|
    .cons "organizer_address" .address <|
    .cons "payment_address" .address <|
    .cons "platform_fee_percent" .u32 <|
    .cons "is_active" .bool <|
    .cons "status" eventStatusCodec <|
    .cons "created_at" .u64 <|
    .cons "metadata_cid" .string <|
    .cons "max_supply" .i128 <|
    .cons "current_supply" .i128 <|
    .cons "milestone_plan" (.option milestoneCodec.vec (by rintro _ ⟨⟩)) <|
    .cons "tiers" ticketTierCodec.dictionary <|
    .cons "refund_deadline" .u64 <|
    .cons "restocking_fee" .i128 <|
    .cons "resale_cap_bps" (.option .u32 (by rintro _ ⟨⟩)) <|
    .cons "min_sales_target" .i128 <|
    .cons "target_deadline" .u64 <|
    .cons "goal_met" .bool <|
    .cons "custom_fee_bps" (.option .u32 (by rintro _ ⟨⟩)) <|
    .cons "banner_cid" (.option .string (by rintro _ ⟨⟩)) <|
    .cons "tags" (.option Codec.string.vec (by rintro _ ⟨⟩)) <|
    .cons "start_time" .u64 <|
    .cons "end_time" .u64 <|
    .cons "accepted_tokens" Codec.address.vec <|
    .cons "use_global_whitelist" .bool <|
    .cons "referral_rate_bps" .u32 <|
    .nil)
    (fun value => (
      value.eventId, value.name, value.organizerAddress, value.paymentAddress,
      value.platformFeePercent, value.isActive, value.status, value.createdAt, value.metadataCid,
      value.maxSupply, value.currentSupply, value.milestonePlan, value.tiers,
      value.refundDeadline, value.restockingFee, value.resaleCapBps, value.minSalesTarget,
      value.targetDeadline, value.goalMet, value.customFeeBps, value.bannerCid, value.tags,
      value.startTime, value.endTime, value.acceptedTokens, value.useGlobalWhitelist,
      value.referralRateBps, ()))
    (fun (
      eventId, name, organizerAddress, paymentAddress, platformFeePercent, isActive, status,
      createdAt, metadataCid, maxSupply, currentSupply, milestonePlan, tiers, refundDeadline,
      restockingFee, resaleCapBps, minSalesTarget, targetDeadline, goalMet, customFeeBps,
      bannerCid, tags, startTime, endTime, acceptedTokens, useGlobalWhitelist,
      referralRateBps, _) => ⟨
      eventId, name, organizerAddress, paymentAddress, platformFeePercent, isActive, status,
      createdAt, metadataCid, maxSupply, currentSupply, milestonePlan, tiers, refundDeadline,
      restockingFee, resaleCapBps, minSalesTarget, targetDeadline, goalMet, customFeeBps,
      bannerCid, tags, startTime, endTime, acceptedTokens, useGlobalWhitelist, referralRateBps⟩)
    fun _ => rfl

def eventInfoCodec : Codec EventInfo :=
  .struct EventInfo.fields (by decide)

theorem eventInfoCodec_solid (info : EventInfo) : eventInfoCodec.encode info ≠ .void :=
  Codec.struct_solid _

end Mirror

/-! ### What the copy would have to show -/

/-- The fields that a tier has in both contracts are equal. -/
structure Wire.TicketTier.Shows (tier : Wire.TicketTier) (copy : Mirror.TicketTier) : Prop where
  name : copy.name = tier.name
  price : copy.price = tier.price
  tierLimit : copy.tierLimit = tier.tierLimit
  currentSold : copy.currentSold = tier.currentSold
  isRefundable : copy.isRefundable = tier.isRefundable
  auctionConfig : copy.auctionConfig = tier.auctionConfig
  loyaltyMultiplier : copy.loyaltyMultiplier = tier.loyaltyMultiplier

/-- The fields that an event has in both contracts are equal. -/
structure Wire.EventInfo.Shows (event : Wire.EventInfo) (copy : Mirror.EventInfo) : Prop where
  eventId : copy.eventId = event.eventId
  name : copy.name = event.name
  organizerAddress : copy.organizerAddress = event.organizerAddress
  paymentAddress : copy.paymentAddress = event.paymentAddress
  platformFeePercent : copy.platformFeePercent = event.platformFeePercent
  isActive : copy.isActive = event.isActive
  status : copy.status = event.status
  createdAt : copy.createdAt = event.createdAt
  metadataCid : copy.metadataCid = event.metadataCid
  maxSupply : copy.maxSupply = event.maxSupply
  currentSupply : copy.currentSupply = event.currentSupply
  milestonePlan : copy.milestonePlan = event.milestonePlan
  refundDeadline : copy.refundDeadline = event.refundDeadline
  restockingFee : copy.restockingFee = event.restockingFee
  resaleCapBps : copy.resaleCapBps = event.resaleCapBps
  minSalesTarget : copy.minSalesTarget = event.minSalesTarget
  targetDeadline : copy.targetDeadline = event.targetDeadline
  goalMet : copy.goalMet = event.goalMet
  customFeeBps : copy.customFeeBps = event.customFeeBps
  bannerCid : copy.bannerCid = event.bannerCid
  tags : copy.tags = event.tags
  startTime : copy.startTime = event.startTime
  endTime : copy.endTime = event.endTime
  acceptedTokens : copy.acceptedTokens = event.acceptedTokens
  useGlobalWhitelist : copy.useGlobalWhitelist = event.useGlobalWhitelist
  referralRateBps : copy.referralRateBps = event.referralRateBps
  tiers : ∀ tierId, Option.Rel Wire.TicketTier.Shows (event.tiers.get tierId)
    (copy.tiers.get tierId)

/-! ### Calls -/

/-- The functions of the registry that the payment contract calls. -/
inductive RegistryFunction where
  | getDispute
  | getGlobalPromoBps
  | getPromoExpiry
  | getEvent
  | getLoyaltyDiscountBps
  | incrementInventory
  | updateLoyaltyScore
  | decrementInventory
  | isScannerAuthorized
  deriving DecidableEq, Repr

/-- The parameters as the registry declares them. -/
def Wire.parameters : RegistryFunction → List ParameterType
  | .getDispute => [.string]
  | .getGlobalPromoBps => []
  | .getPromoExpiry => []
  | .getEvent => [.string]
  | .getLoyaltyDiscountBps => [.address]
  | .incrementInventory => [.string, .string, .address, .u32, .address]
  | .updateLoyaltyScore => [.address, .address, .u32, .i128, .u32]
  | .decrementInventory => [.string, .string]
  | .isScannerAuthorized => [.string, .address]

/-- The parameters as the payment contract declares them. -/
def Mirror.parameters : RegistryFunction → List ParameterType
  | .getDispute => [.string]
  | .getGlobalPromoBps => []
  | .getPromoExpiry => []
  | .getEvent => [.string]
  | .getLoyaltyDiscountBps => [.address]
  | .incrementInventory => [.string, .string, .address, .u32, .address]
  | .updateLoyaltyScore => [.address, .address, .u32, .i128, .u32]
  | .decrementInventory => [.string, .string, .address]
  | .isScannerAuthorized => [.string, .address]

theorem parameters_eq_iff (function : RegistryFunction) :
    Wire.parameters function = Mirror.parameters function ↔
      function ≠ .decrementInventory := by
  cases function <;> decide

/-! ### Events -/

namespace Wire

/-- What the rest of the development reads of a tier. -/
def TicketTier.tier (tier : TicketTier) : Tier where
  price := tier.price
  tierLimit := tier.tierLimit
  currentSold := tier.currentSold
  isRefundable := tier.isRefundable
  auctionConfig := tier.auctionConfig
  loyaltyMultiplier := tier.loyaltyMultiplier
  maxPerUser := tier.maxPerUser

/-- What the rest of the development reads of an event. -/
def EventInfo.event (info : EventInfo) : Event where
  organizerAddress := info.organizerAddress
  paymentAddress := info.paymentAddress
  platformFeePercent := info.platformFeePercent
  isActive := info.isActive
  status := info.status
  metadataCid := info.metadataCid.toUTF8.toList
  maxSupply := info.maxSupply
  currentSupply := info.currentSupply
  milestonePlan := info.milestonePlan
  tiers := info.tiers.entries.foldl (fun table entry => table.set entry.1 entry.2.tier) .empty
  refundDeadline := info.refundDeadline
  restockingFee := info.restockingFee
  resaleCapBps := info.resaleCapBps
  isPostponed := info.isPostponed
  gracePeriodEnd := info.gracePeriodEnd
  minSalesTarget := info.minSalesTarget
  targetDeadline := info.targetDeadline
  goalMet := info.goalMet
  customFeeBps := info.customFeeBps
  startTime := info.startTime
  isPrivate := info.isPrivate
  endTime := info.endTime
  acceptedTokens := info.acceptedTokens
  useGlobalWhitelist := info.useGlobalWhitelist
  feedbackCid := info.feedbackCid.map (·.toUTF8.toList)

/-- The registry with all that it stores of its events. -/
structure Catalogue where
  registry : Registry
  infos : Store EventId EventInfo
  read : infos.map EventInfo.event = registry.events

/-- The answer of the registry, as it is sent. -/
def Catalogue.getEvent (catalogue : Catalogue) (eventId : EventId) : ScVal :=
  (eventInfoCodec.option eventInfoCodec_solid).encode (catalogue.infos.get eventId)

end Wire

namespace Mirror

/-- The answer of the registry, as the payment contract reads it. -/
def readEvent (answer : ScVal) : Option (Option EventInfo) :=
  (eventInfoCodec.option eventInfoCodec_solid).decode answer

/-- The payment contract does not read an event of the registry. -/
theorem decode_eventInfo (info : Wire.EventInfo) :
    eventInfoCodec.decode (Wire.eventInfoCodec.encode info) = none := by
  have different : ¬Wire.EventInfo.fields.names.Perm EventInfo.fields.names :=
    fun permutation => absurd permutation.length_eq (by decide)
  exact Codec.decode_struct_of_not_perm _ _ different

end Mirror

namespace Wire.Catalogue

variable (catalogue : Catalogue) (eventId : EventId)

theorem infos_eq_none_iff :
    catalogue.infos.get eventId = none ↔ catalogue.registry.events.get eventId = none := by
  rw [← catalogue.read, Store.get_map, Option.map_eq_none_iff]

/-- No stored event is read. -/
theorem readEvent_getEvent {info : EventInfo} (stored : catalogue.infos.get eventId = some info) :
    Mirror.readEvent (catalogue.getEvent eventId) = none := by
  rw [getEvent, stored, Codec.encode_option_some, Mirror.readEvent,
    Codec.decode_option (eventInfoCodec_solid info), Mirror.decode_eventInfo, Option.map_none]

/-- The two contracts agree on every stored event and on the parameters of the function. -/
def Agrees (function : RegistryFunction) : Prop :=
  (∀ eventId info, catalogue.infos.get eventId = some info →
      ∃ copy, Mirror.readEvent (catalogue.getEvent eventId) = some (some copy) ∧
        info.Shows copy) ∧
    Wire.parameters function = Mirror.parameters function

end Wire.Catalogue

/-- The two contracts agree on the stored events and on a function exactly when no event is
stored, and the function is not the one that gives a ticket back. -/
theorem wire_formats_agree_iff (catalogue : Wire.Catalogue) (function : RegistryFunction) :
    catalogue.Agrees function ↔
      (∀ eventId, catalogue.registry.events.get eventId = none) ∧
        function ≠ .decrementInventory := by
  rw [Wire.Catalogue.Agrees, parameters_eq_iff]
  refine and_congr_left fun _ => ⟨fun reads eventId => ?_, fun empty eventId info stored => ?_⟩
  · rw [← catalogue.infos_eq_none_iff, Option.eq_none_iff_forall_ne_some]
    intro info stored
    obtain ⟨copy, read, _⟩ := reads eventId info stored
    rw [catalogue.readEvent_getEvent eventId stored] at read
    cases read
  · rw [(catalogue.infos_eq_none_iff eventId).mpr (empty eventId)] at stored
    cases stored

namespace Wire

/-- A free concert without tiers. -/
def plainEvent : EventInfo where
  eventId := "concert"
  name := "Concert"
  organizerAddress := ⟨"organizer"⟩
  paymentAddress := ⟨"organizer"⟩
  platformFeePercent := 5
  isActive := true
  status := .active
  createdAt := 1
  metadataCid := "cid"
  maxSupply := 0
  currentSupply := 0
  milestonePlan := none
  tiers := .empty
  refundDeadline := 0
  restockingFee := 0
  resaleCapBps := none
  isPostponed := false
  gracePeriodEnd := 0
  minSalesTarget := 0
  targetDeadline := 0
  goalMet := false
  customFeeBps := none
  bannerCid := none
  tags := none
  categoryIds := none
  startTime := 0
  isPrivate := false
  endTime := 0
  transferLockDuration := 0
  acceptedTokens := []
  useGlobalWhitelist := true
  feedbackCid := none
  cancellationReason := none
  referralRateBps := 0

/-- The registry with the concert. -/
def plainCatalogue : Catalogue where
  registry := { Registry.vacant with events := Store.empty.set "concert" plainEvent.event }
  infos := Store.empty.set "concert" plainEvent
  read := by
    ext1 eventId
    rw [Store.get_map, Store.get_set, Store.get_set]
    split <;> rfl

end Wire

theorem wire_formats_disagree :
    Mirror.readEvent (Wire.plainCatalogue.getEvent "concert") = none ∧
      ¬Wire.plainCatalogue.Agrees .getEvent ∧
      Wire.parameters .decrementInventory ≠ Mirror.parameters .decrementInventory := by
  have unread : Mirror.readEvent (Wire.plainCatalogue.getEvent "concert") = none :=
    Wire.plainCatalogue.readEvent_getEvent "concert" rfl
  refine ⟨unread, fun agrees => ?_, by decide⟩
  obtain ⟨copy, read, _⟩ := agrees.1 "concert" Wire.plainEvent rfl
  rw [unread] at read
  cases read

end Agora.EventRegistry

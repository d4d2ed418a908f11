/-
This file proves when the number of Pro subscriptions, the list of Pro members and the
stored subscriptions agree.

The entry points write the three under different checks. A purchase after the end of an
active subscription counts a member a second time, a renewal lists whom it does not count,
and a cancellation takes away one that was never counted. Where no call does any of these
the three agree in every state of a run.
-/

import Agora.Lib.Run
import Agora.ProSubscription.Contract

namespace Agora.ProSubscription

open Soroban

namespace Subscription

/-- The subscription is a Pro subscription that nobody has cancelled. -/
def ActivePro (subscription : Subscription) : Prop :=
  subscription.tier = .pro ∧ subscription.isActive = true

instance (subscription : Subscription) : Decidable subscription.ActivePro :=
  inferInstanceAs (Decidable (_ ∧ _))

end Subscription

namespace Storage

/-- The organizer has a stored Pro subscription that is active. -/
def HasPro (storage : Storage) (organizer : Address) : Prop :=
  ∃ subscription ∈ storage.subscription.get organizer, subscription.ActivePro

/-- The number is that of the list, which has exactly the organizers with an active Pro
subscription, each once. -/
structure Agrees (storage : Storage) : Prop where
  counted : storage.totalProSubscriptions = storage.proMembersList.length
  nodup : storage.proMembersList.Nodup
  members : ∀ organizer, organizer ∈ storage.proMembersList ↔ storage.HasPro organizer

variable {storage : Storage} {record : Subscription} {organizer : Address}

theorem hasPro_setSubscription {other : Address} :
    (storage.setSubscription record).HasPro other ↔
      if other = record.organizer then record.ActivePro else storage.HasPro other := by
  unfold HasPro setSubscription
  simp only [Store.get_set]
  split
  · simp
  · rfl

theorem agrees_empty : Storage.empty.Agrees where
  counted := rfl
  nodup := List.nodup_nil
  members organizer := by
    refine iff_of_false List.not_mem_nil ?_
    rintro ⟨_, absent, _⟩
    cases absent

/-! ### The writes -/

section Writes

variable (agrees : storage.Agrees) (key : record.organizer = organizer)

include agrees key

/-- A member that is not listed yet is stored, listed and counted. -/
theorem Agrees.join (outside : ¬storage.HasPro organizer) (active : record.ActivePro) :
    ((storage.setSubscription record).addToProMembersList
      organizer).incrementTotalProSubscriptions.Agrees := by
  have unlisted : organizer ∉ storage.proMembersList := fun listed =>
    outside ((agrees.members organizer).mp listed)
  have list : ((storage.setSubscription record).addToProMembersList
      organizer).incrementTotalProSubscriptions.proMembersList =
        storage.proMembersList ++ [organizer] := if_neg unlisted
  refine ⟨?_, ?_, fun other => ?_⟩
  · rw [list, List.length_append, List.length_singleton, ← agrees.counted]
    rfl
  · rw [list]
    exact List.nodup_append_comm.mp (List.nodup_cons.mpr ⟨unlisted, agrees.nodup⟩)
  · rw [list, List.mem_append, List.mem_singleton, agrees.members]
    refine Iff.trans ?_ hasPro_setSubscription.symm
    rw [key]
    split
    next same => exact iff_of_true (.inr same) active
    next different => exact or_iff_left different

/-- The subscription of a listed member is replaced by an active one. -/
theorem Agrees.stay (inside : storage.HasPro organizer) (active : record.ActivePro) :
    ((storage.setSubscription record).addToProMembersList organizer).Agrees := by
  have listed : organizer ∈ storage.proMembersList := (agrees.members _).mpr inside
  have list : ((storage.setSubscription record).addToProMembersList organizer).proMembersList =
      storage.proMembersList := if_pos listed
  refine ⟨?_, ?_, fun other => ?_⟩
  · rw [list]
    exact agrees.counted
  · rw [list]
    exact agrees.nodup
  · rw [list, agrees.members]
    refine Iff.trans ?_ hasPro_setSubscription.symm
    rw [key]
    split
    next same =>
      rw [same]
      exact iff_of_true inside active
    next => rfl

/-- A listed member leaves, or somebody who is not listed while nobody is. -/
theorem Agrees.leave (inactive : ¬record.ActivePro)
    (either : storage.totalProSubscriptions = 0 ∨ storage.HasPro organizer) :
    ((storage.setSubscription record).removeFromProMembersList
      organizer).decrementTotalProSubscriptions.Agrees := by
  refine ⟨?_, agrees.nodup.erase _, fun other => ?_⟩
  · show storage.totalProSubscriptions - 1 = (storage.proMembersList.erase _).length
    rcases either with nobody | inside
    · have empty : storage.proMembersList = [] :=
        List.length_eq_zero_iff.mp (agrees.counted.symm.trans nobody)
      rw [nobody, empty]
      rfl
    · rw [List.length_erase_of_mem ((agrees.members _).mpr inside), agrees.counted]
  · show other ∈ storage.proMembersList.erase _ ↔ _
    rw [agrees.nodup.mem_erase_iff, agrees.members]
    refine Iff.trans ?_ hasPro_setSubscription.symm
    rw [key]
    split
    next same => exact iff_of_false (fun both => both.1 same) inactive
    next different => exact and_iff_right different

/-- Neither the old subscription nor the new one is an active Pro subscription. -/
theorem Agrees.ignore (outside : ¬storage.HasPro organizer) (inactive : ¬record.ActivePro) :
    (storage.setSubscription record).Agrees := by
  refine ⟨agrees.counted, agrees.nodup, fun other => ?_⟩
  refine (agrees.members other).trans (Iff.trans ?_ hasPro_setSubscription.symm)
  rw [key]
  split
  next same =>
    rw [same]
    exact iff_of_false outside inactive
  next => rfl

end Writes

end Storage

/-! ### Runs -/

/-- The condition on a step: no purchase while an active Pro subscription has come to its end, no
renewal but of an active Pro subscription, and no cancellation of any other one while somebody is
counted. -/
def CountsOnce (world : World) : Action → Prop
  | .call _ timestamp (.subscribePro organizer _) =>
    ∀ subscription ∈ world.storage.subscription.get organizer,
      subscription.ActivePro → timestamp < subscription.expiresAt
  | .call _ _ (.renewSubscription organizer _) =>
    ∀ subscription ∈ world.storage.subscription.get organizer, subscription.ActivePro
  | .call _ _ (.cancelSubscription organizer) =>
    world.storage.totalProSubscriptions = 0 ∨
      ∀ subscription ∈ world.storage.subscription.get organizer, subscription.ActivePro
  | _ => True

theorem Turn.agrees {world next : World} {call : Call} (turn : Turn world call next)
    (signed : Address → Bool) (once : CountsOnce world (.call signed world.now call))
    (agrees : world.storage.Agrees) : next.storage.Agrees := by
  cases turn with
  | configured _ storage subscription proMembersList total =>
    refine ⟨?_, ?_, fun organizer => ?_⟩
    · rw [World.withStorage, total, proMembersList]
      exact agrees.counted
    · rw [World.withStorage, proMembersList]
      exact agrees.nodup
    · rw [World.withStorage, proMembersList, Storage.HasPro, subscription]
      exact agrees.members organizer
  | subscribed organizer months payment outside =>
    have notPro : ¬world.storage.HasPro organizer := by
      rintro ⟨subscription, stored, active⟩
      have later := once subscription stored active
      rw [Storage.isProMember, Option.mem_def.mp stored] at outside
      simp only [active.2, Bool.true_and, decide_eq_false_iff_not] at outside
      exact outside later
    exact agrees.join rfl notPro ⟨rfl, rfl⟩
  | renewed organizer months payment subscription stored =>
    obtain ⟨tier, active⟩ := once subscription stored
    have key := world.storage.keyed organizer subscription stored
    exact agrees.stay key ⟨subscription, stored, tier, active⟩ ⟨tier, rfl⟩
  | cancelled organizer subscription stored =>
    have key := world.storage.keyed organizer subscription stored
    have inactive : ¬subscription.cancelled.ActivePro := by
      rintro ⟨_, active⟩
      cases active
    exact agrees.leave key inactive (once.imp_right fun active =>
      ⟨subscription, stored, active subscription stored⟩)
  | basic organizer paymentToken vacant =>
    have notPro : ¬world.storage.HasPro organizer := by
      rintro ⟨subscription, stored, active⟩
      exact vacant subscription stored active
    have inactive : ¬(Subscription.free organizer world.now paymentToken).ActivePro := by
      rintro ⟨tier, _⟩
      cases tier
    exact agrees.ignore rfl notPro inactive

theorem agrees_step {contract : Address} (world : World) (action : Action)
    (once : CountsOnce world action) (agrees : world.storage.Agrees) :
    (step contract world action).storage.Agrees := by
  cases action with
  | call signed timestamp call =>
    obtain ⟨_, same⟩ | ⟨_, turn⟩ := step_call_cases contract signed world timestamp call
    · rw [same]
      exact agrees
    · exact turn.agrees signed once agrees
  | pass timestamp => exact agrees
  | otherTokens tokens => exact agrees

/-- The number, the list and the records agree in every state of a run whose steps all meet the
condition. -/
theorem pro_counters_agree (contract : Address) (tokens : Tokens) (now : Nat)
    (actions : List Action)
    (once : Respects (step contract) CountsOnce (.fresh tokens now) actions) :
    (runActions (step contract) (.fresh tokens now) actions).storage.Agrees :=
  respects_invariant (fun world => world.storage.Agrees) agrees_step _ actions once
    Storage.agrees_empty

/-! ### Runs that meet the condition, and one that does not -/

def adminAddress : Address := ⟨"admin"⟩

def walletAddress : Address := ⟨"wallet"⟩

def tokenAddress : Address := ⟨"usdc"⟩

def contractAddress : Address := ⟨"subscriptions"⟩

def organizerAddress : Address := ⟨"organizer"⟩

/-- Everybody has enough to pay with. -/
def funded : Tokens where
  balance _ _ := 1000
  allowance _ _ _ := 0

/-- Everybody signs. -/
def called (timestamp : Nat) (call : Call) : Action :=
  .call (fun _ => true) timestamp call

def opening : Action :=
  called 0 (.initializeContract adminAddress walletAddress tokenAddress 10)

/-- A month is bought, extended by a month before its end, and cancelled. -/
def oneMember : List Action :=
  [opening, called 1 (.subscribePro organizerAddress 1),
    called 2 (.renewSubscription organizerAddress 1),
    called 3 (.cancelSubscription organizerAddress)]

theorem agrees_oneMember :
    (runActions (step contractAddress) (.fresh funded 0) oneMember).storage.Agrees := by
  refine pro_counters_agree contractAddress funded 0 oneMember
    ⟨trivial, ?_, ?_, .inr ?_, trivial⟩
  · rintro subscription ⟨⟩
  · rintro subscription ⟨⟩
    exact ⟨rfl, rfl⟩
  · rintro subscription ⟨⟩
    exact ⟨rfl, rfl⟩

/-- A month is bought, and bought again after its end. -/
def boughtTwice : List Action :=
  [opening, called 1 (.subscribePro organizerAddress 1),
    called 3000000 (.subscribePro organizerAddress 1)]

theorem boughtTwice_disagrees :
    (runActions (step contractAddress) (.fresh funded 0) boughtTwice).storage.proMembersList =
        [organizerAddress] ∧
      (runActions (step contractAddress) (.fresh funded 0)
        boughtTwice).storage.totalProSubscriptions = 2 ∧
      ¬(runActions (step contractAddress) (.fresh funded 0) boughtTwice).storage.Agrees := by
  have list : (runActions (step contractAddress) (.fresh funded 0)
      boughtTwice).storage.proMembersList = [organizerAddress] := by decide +kernel
  have total : (runActions (step contractAddress) (.fresh funded 0)
      boughtTwice).storage.totalProSubscriptions = 2 := by decide +kernel
  refine ⟨list, total, fun agrees => ?_⟩
  have counted := agrees.counted
  rw [list, total] at counted
  cases counted

end Agora.ProSubscription

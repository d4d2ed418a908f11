/-
This file proves that nobody is a Pro member for longer than they have paid for.

Beside a run stands a tab of one organizer: the seconds at which the contract called them a
Pro member, and the months of their accepted purchases and renewals. What the tab has used
up and what is left of the stored subscription never exceed the months that were paid,
through expiry, early renewal, cancellation, a free subscription and a new purchase. Each
of these months was paid at the price that was set.
-/

import Mathlib.Order.Interval.Finset.Nat
import Agora.ProSubscription.Members

namespace Agora.ProSubscription

open Soroban

/-! ### The tab -/

/-- The months that a call asks for in the name of the organizer. -/
def Call.monthsFor (organizer : Address) : Call → Nat
  | .subscribePro payer months => if payer = organizer then months else 0
  | .renewSubscription payer months => if payer = organizer then months else 0
  | _ => 0

/-- The months that a step pays for. -/
def paidMonths (contract organizer : Address) (world : World) : Action → Nat
  | .call signed timestamp call =>
    if accepted (entry contract signed call) (world.atTime timestamp) then
      call.monthsFor organizer
    else 0
  | _ => 0

/-- The seconds from now on until a later time at which the organizer is a Pro member. -/
def World.proSeconds (world : World) (organizer : Address) (later : Nat) : Nat :=
  ((Finset.Ico world.now later).filter fun second =>
    world.storage.isProMember organizer second = true).card

/-- The seconds as a Pro member, and the months paid for. -/
structure Tab where
  proSeconds : Nat
  months : Nat

def Tab.advance (contract organizer : Address) (world : World) (action : Action) (tab : Tab) :
    Tab where
  proSeconds := tab.proSeconds + world.proSeconds organizer (step contract world action).now
  months := tab.months + paidMonths contract organizer world action

/-- What is left of an active subscription. -/
def Storage.timeLeft (storage : Storage) (organizer : Address) (now : Nat) : Nat :=
  match storage.subscription.get organizer with
  | some subscription => if subscription.isActive then subscription.expiresAt - now else 0
  | none => 0

/-- Time does not run backwards. -/
def Forward (world : World) : Action → Prop
  | .call _ timestamp _ => world.now ≤ timestamp
  | .pass timestamp => world.now ≤ timestamp
  | .otherTokens _ => True

/-- An accepted purchase or renewal moves the price of its months, as it is set, from the
organizer to the wallet that is set, and nothing else. -/
def MovesPrice (contract organizer : Address) (world : World) : Action → Prop
  | .call signed timestamp call =>
    accepted (entry contract signed call) (world.atTime timestamp) = true → ∀ months,
      call = .subscribePro organizer months ∨ call = .renewSubscription organizer months →
      ∃ token wallet, world.storage.paymentToken = some token ∧
        world.storage.platformWallet = some wallet ∧
        (step contract world (.call signed timestamp call)).tokens =
          world.tokens.move token organizer wallet (world.storage.getProMonthlyPrice * months)
  | _ => True

/-! ### Seconds and months -/

namespace Storage

/-- The end of the stored subscription, whether it is active or not. -/
def expiry (storage : Storage) (organizer : Address) : Nat :=
  ((storage.subscription.get organizer).map (·.expiresAt)).getD 0

variable (storage : Storage) (organizer : Address) {record : Subscription}

theorem expiry_setSubscription :
    (storage.setSubscription record).expiry organizer =
      if organizer = record.organizer then record.expiresAt else storage.expiry organizer := by
  unfold expiry setSubscription
  rw [Store.get_set]
  split
  · rfl
  · rfl

theorem expiry_of_some {storage : Storage} {organizer : Address}
    (stored : storage.subscription.get organizer = some record) :
    storage.expiry organizer = record.expiresAt := by
  rw [expiry, stored]
  rfl

theorem timeLeft_le (now : Nat) :
    storage.timeLeft organizer now ≤ storage.expiry organizer - now := by
  unfold timeLeft expiry
  cases storage.subscription.get organizer with
  | none => exact Nat.zero_le _
  | some subscription =>
    show (if subscription.isActive then _ else 0) ≤ subscription.expiresAt - now
    split
    · exact le_rfl
    · exact Nat.zero_le _

theorem lt_expiry_of_isProMember {second : Nat}
    (member : storage.isProMember organizer second = true) :
    second < storage.expiry organizer := by
  unfold isProMember at member
  cases stored : storage.subscription.get organizer with
  | none =>
    rw [stored] at member
    cases member
  | some subscription =>
    rw [stored] at member
    rw [expiry_of_some stored]
    exact of_decide_eq_true (Bool.and_eq_true_iff.mp member).2

end Storage

/-- Time that passes is used up at most once. -/
theorem World.proSeconds_add_le (world : World) (organizer : Address) {later : Nat}
    (forward : world.now ≤ later) :
    world.proSeconds organizer later + (world.storage.expiry organizer - later) ≤
      world.storage.expiry organizer - world.now := by
  have within : (Finset.Ico world.now later).filter (fun second =>
      world.storage.isProMember organizer second = true) ⊆
        Finset.Ico world.now (min later (world.storage.expiry organizer)) := by
    intro second member
    obtain ⟨inside, isMember⟩ := Finset.mem_filter.mp member
    obtain ⟨low, high⟩ := Finset.mem_Ico.mp inside
    have bound := world.storage.lt_expiry_of_isProMember organizer isMember
    exact Finset.mem_Ico.mpr ⟨low, lt_min high bound⟩
  have count := Finset.card_le_card within
  rw [Nat.card_Ico] at count
  unfold proSeconds
  omega

variable {call : Call}

/-- A call adds to what is left at most the months that it pays for. -/
theorem Turn.expiry_le {world next : World} (turn : Turn world call next) (organizer : Address) :
    next.storage.expiry organizer - world.now ≤
      world.storage.expiry organizer - world.now +
        secondsPerMonth * call.monthsFor organizer := by
  cases turn with
  | configured _ storage subscription =>
    have same : storage.expiry organizer = world.storage.expiry organizer := by
      rw [Storage.expiry, subscription, Storage.expiry]
    show storage.expiry organizer - world.now ≤ _
    rw [same]
    exact Nat.le_add_right _ _
  | subscribed payer months payment =>
    have read : ((world.storage.setSubscription
        (.bought world payer months payment)).addToProMembersList
          payer).incrementTotalProSubscriptions.expiry organizer = _ :=
      world.storage.expiry_setSubscription organizer
    rw [read, Call.monthsFor, Subscription.bought]
    by_cases same : organizer = payer
    · rw [if_pos same, if_pos same.symm]
      show world.now + secondsPerMonth * months - world.now ≤ _
      omega
    · rw [if_neg same, if_neg (Ne.symm same)]
      exact Nat.le_add_right _ _
  | renewed payer months payment subscription stored =>
    have read : ((world.storage.setSubscription (subscription.renewed world.now months
        payment.amount)).addToProMembersList payer).expiry organizer = _ :=
      world.storage.expiry_setSubscription organizer
    have key := world.storage.keyed payer subscription stored
    rw [read, Call.monthsFor, Subscription.renewed, key]
    by_cases same : organizer = payer
    · have before := Storage.expiry_of_some stored
      rw [if_pos same, if_pos same.symm, same, before]
      show max world.now subscription.expiresAt + secondsPerMonth * months - world.now ≤ _
      omega
    · rw [if_neg same, if_neg (Ne.symm same)]
      exact Nat.le_add_right _ _
  | cancelled payer subscription stored =>
    have read : (((world.storage.setSubscription subscription.cancelled).removeFromProMembersList
        payer).decrementTotalProSubscriptions).expiry organizer = _ :=
      world.storage.expiry_setSubscription organizer
    have key := world.storage.keyed payer subscription stored
    rw [World.withStorage, read, Subscription.cancelled, key]
    by_cases same : organizer = payer
    · rw [if_pos same, same, Storage.expiry_of_some stored]
      exact Nat.le_add_right _ _
    · rw [if_neg same]
      exact Nat.le_add_right _ _
  | basic payer paymentToken =>
    show (world.storage.setSubscription (.free payer world.now paymentToken)).expiry organizer -
      world.now ≤ _
    rw [Storage.expiry_setSubscription, Subscription.free]
    split
    · rw [Nat.zero_sub]
      exact Nat.zero_le _
    · exact Nat.le_add_right _ _

theorem Turn.now_eq {world next : World} (turn : Turn world call next) :
    next.now = world.now := by
  cases turn <;> rfl

/-! ### Runs -/

/-- What was used up and what is left was paid for. -/
def Covered (organizer : Address) (world : World) (tab : Tab) : Prop :=
  tab.proSeconds + (world.storage.expiry organizer - world.now) ≤ secondsPerMonth * tab.months

theorem covered_step (contract organizer : Address) (world : World) (action : Action) (tab : Tab)
    (forward : Forward world action) (covered : Covered organizer world tab) :
    Covered organizer (step contract world action)
      (tab.advance contract organizer world action) := by
  unfold Covered Tab.advance at *
  cases action with
  | call signed timestamp call =>
    have used := world.proSeconds_add_le organizer forward
    simp only [paidMonths]
    obtain ⟨refused, same⟩ | ⟨done, turn⟩ := step_call_cases contract signed world timestamp call
    · rw [same, refused]
      show tab.proSeconds + world.proSeconds organizer timestamp +
        (world.storage.expiry organizer - timestamp) ≤ secondsPerMonth * tab.months
      omega
    · have left := turn.expiry_le organizer
      rw [turn.now_eq, done, if_pos rfl, Nat.mul_add]
      show tab.proSeconds + world.proSeconds organizer timestamp +
        (_ - timestamp) ≤ _
      change _ ≤ world.storage.expiry organizer - timestamp + _ at left
      change Storage.expiry _ _ - timestamp ≤ _ at left
      omega
  | pass timestamp =>
    have used := world.proSeconds_add_le organizer forward
    show tab.proSeconds + world.proSeconds organizer timestamp +
      (world.storage.expiry organizer - timestamp) ≤ secondsPerMonth * tab.months
    omega
  | otherTokens tokens =>
    have used := world.proSeconds_add_le organizer (le_refl world.now)
    show tab.proSeconds + world.proSeconds organizer world.now +
      (world.storage.expiry organizer - world.now) ≤ secondsPerMonth * tab.months
    omega

theorem movesPrice_step (contract organizer : Address) (world : World) (action : Action) :
    MovesPrice contract organizer world action := by
  cases action with
  | call signed timestamp call =>
    intro done months either
    obtain ⟨refused, _⟩ | ⟨_, turn⟩ := step_call_cases contract signed world timestamp call
    · rw [done] at refused
      cases refused
    · generalize after : step contract world (.call signed timestamp call) = next at turn
      rcases either with rfl | rfl
      · cases turn with
        | configured _ _ _ _ _ unpaid => exact absurd rfl (unpaid organizer months).1
        | subscribed _ _ payment =>
          exact ⟨payment.token, payment.wallet, payment.tokenSet, payment.walletSet, rfl⟩
      · cases turn with
        | configured _ _ _ _ _ unpaid => exact absurd rfl (unpaid organizer months).2
        | renewed _ _ payment =>
          exact ⟨payment.token, payment.wallet, payment.tokenSet, payment.walletSet, rfl⟩
  | pass timestamp => trivial
  | otherTokens tokens => trivial

/-- Nobody is a Pro member for longer than they have paid for: the seconds as a member and what
is left of an active subscription are at most those of the paid months, and every accepted
purchase or renewal moves the price of its months to the wallet. -/
theorem pro_time_is_paid (contract organizer : Address) (tokens : Tokens) (now : Nat)
    (actions : List Action)
    (forward : Respects (step contract) Forward (.fresh tokens now) actions) :
    (runFold (step contract) (Tab.advance contract organizer) (.fresh tokens now) actions
          ⟨0, 0⟩).proSeconds +
        (runActions (step contract) (.fresh tokens now) actions).storage.timeLeft organizer
          (runActions (step contract) (.fresh tokens now) actions).now ≤
      secondsPerMonth * (runFold (step contract) (Tab.advance contract organizer)
        (.fresh tokens now) actions ⟨0, 0⟩).months ∧
    Respects (step contract) (MovesPrice contract organizer) (.fresh tokens now) actions := by
  have covered := respects_runFold (Covered organizer)
    (fun world action tab => covered_step contract organizer world action tab)
    (.fresh tokens now) actions ⟨0, 0⟩ forward (Nat.le_of_eq (by
      show 0 + (0 - now) = secondsPerMonth * 0
      omega))
  refine ⟨?_, ?_⟩
  · have left := (runActions (step contract) (.fresh tokens now) actions).storage.timeLeft_le
      organizer (runActions (step contract) (.fresh tokens now) actions).now
    unfold Covered at covered
    omega
  · exact Respects.of_invariant (fun _ => True)
      (fun world action _ _ => movesPrice_step contract organizer world action)
      (fun _ _ _ _ => trivial) _ actions (respects_true _ actions) trivial

/-- A month is bought, extended by a month before its end, and cancelled. -/
theorem paid_oneMember :
    (runFold (step contractAddress) (Tab.advance contractAddress organizerAddress)
          (.fresh funded 0) oneMember ⟨0, 0⟩).proSeconds +
        (runActions (step contractAddress) (.fresh funded 0) oneMember).storage.timeLeft
          organizerAddress (runActions (step contractAddress) (.fresh funded 0) oneMember).now ≤
      secondsPerMonth * (runFold (step contractAddress)
        (Tab.advance contractAddress organizerAddress) (.fresh funded 0) oneMember ⟨0, 0⟩).months :=
  (pro_time_is_paid contractAddress organizerAddress funded 0 oneMember
    ⟨Nat.le_refl 0, Nat.zero_le 1, Nat.le_succ 1, Nat.le_succ 2, trivial⟩).1

end Agora.ProSubscription

/-
This file asks whether the discount codes of one event stay with that event: whether
what `process_payment` charges for a second event can depend on the hashes that were
stored for the first.

It can. The organizer of an event stores hashes for that event only, but the hash is
stored without the event, and a payment for any event may present the code. The two runs
that the question compares are both compared with the run in which nothing is stored for
the first event. As long as no payment presents one of its codes, their states differ at
its hashes only.
-/

import Agora.EventRegistry.System
import Agora.TicketPayment.HashBlind

namespace Agora.TicketPayment

open Soroban EventRegistry

variable {Registry : Type} [RegistryApi Registry] {host : Host}

/-! ### What a payment comes to -/

inductive PaymentOutcome where
  | refused
  | charged (amount : Int)
  deriving DecidableEq, Repr

/-- What comes of a payment for the event: it is refused, or it takes an amount from the buyer. -/
def paymentOutcome (eventId : EventId) (world : World Registry) :
    Action host Registry → Option PaymentOutcome
  | .call env (.processPayment purchase) =>
    if purchase.eventId = eventId then
      if accepted (processPayment env purchase) world = true then
        some (.charged (world.tokens.balance purchase.tokenAddress purchase.buyerAddress -
          (commit (processPayment env purchase) world).tokens.balance purchase.tokenAddress
            purchase.buyerAddress))
      else some .refused
    else none
  | _ => none

/-- What comes of the payments for the event, one after another. -/
def paymentOutcomes (registry : Registry) (eventId : EventId)
    (actions : List (Action host Registry)) : List PaymentOutcome :=
  runOutputs step (paymentOutcome eventId) (.fresh registry) actions

/-! ### Storing hashes -/

theorem get_storeHashes (added : List BytesN32) (discounts : Discounts) (hash : BytesN32) :
    (storeHashes added discounts).hash.get hash =
      if hash ∈ added then some () else discounts.hash.get hash := by
  induction added generalizing discounts with
  | nil => rfl
  | cons first rest inductionHypothesis =>
    show (storeHashes rest (addDiscountHash discounts first)).hash.get hash = _
    rw [inductionHypothesis, addDiscountHash, Store.get_set]
    by_cases later : hash ∈ rest
    · rw [if_pos later, if_pos (List.mem_cons_of_mem first later)]
    · by_cases now : hash = first
      · rw [if_neg later, if_pos now, if_pos (List.mem_cons.mpr (.inl now))]
      · rw [if_neg later, if_neg now, if_neg (List.not_mem_cons_of_ne_of_not_mem now later)]

section Storing

variable (env : Env host) (eventId : EventId) (added : List BytesN32)

/-- A call that is accepted stores the hashes and does nothing else. -/
theorem commit_addDiscountHashes (world : World Registry) :
    commit (addDiscountHashes env eventId added) world =
      if accepted (addDiscountHashes env eventId added) world = true then
        world.withDiscounts (storeHashes added)
      else world := by
  have writes : Ensures (addDiscountHashes env eventId added) world fun _ next =>
      next = world.withDiscounts (storeHashes added) := by
    simp only [addDiscountHashes, ensures_rules, ensures_checks, ensures_getEvent]
    intro _ _ _ _ _ _ _
    trivial
  obtain ⟨refused, unchanged⟩ | ⟨success, value, run⟩ :=
    commit_cases_accepted (addDiscountHashes env eventId added) world
  · rw [unchanged, refused, if_neg Bool.false_ne_true]
  · rw [success, if_pos rfl, writes value _ run]

/-- Whether a call is accepted does not depend on the hashes that are stored. -/
theorem accepted_addDiscountHashes {listed : List BytesN32} {hashes : Store BytesN32 Unit}
    {world : World Registry} :
    accepted (addDiscountHashes env eventId added) (world.withListed listed hashes) =
      accepted (addDiscountHashes env eventId added) world := by
  have split : (addDiscountHashes env eventId added : Entry Registry Unit) = (do
      requireInitialized
      require (added ≠ []) (.error .emptyBatch)
      require (added.length ≤ maxBatchSize) (.error .batchTooLarge)
      let event ← getEvent eventId
      requireAuth env event.organizerAddress) >>= fun _ =>
        modify (·.withDiscounts (storeHashes added)) := by
    simp only [bind_assoc]
    rfl
  rw [split, accepted_bind_modify, accepted_bind_modify]
  exact accepted_change _ world

end Storing

/-! ### Alike states -/

/-- The second state differs from the first at the listed hashes only. -/
def AlikeBut (listed : List BytesN32) (world other : World Registry) : Prop :=
  ∃ hashes, other = world.withListed listed hashes

section Alike

variable {listed added : List BytesN32} {world other : World Registry}

omit [RegistryApi Registry] in
theorem alikeBut_of_agree (rest : other = world.withDiscounts fun _ => other.discounts)
    (used : other.discounts.hashUsed = world.discounts.hashUsed)
    (code : other.discounts.code = world.discounts.code)
    (agree : ∀ hash, hash ∉ listed →
      other.discounts.hash.get hash = world.discounts.hash.get hash) :
    AlikeBut listed world other := by
  refine ⟨other.discounts.hash, rest.trans ?_⟩
  rw [World.withListed, Store.redirect_eq_of_agree agree]
  show _ = world.withDiscounts fun discounts =>
    ⟨other.discounts.hash, discounts.hashUsed, discounts.code⟩
  rw [World.withDiscounts, World.withDiscounts, ← used, ← code]

omit [RegistryApi Registry] in
theorem AlikeBut.refl {listed : List BytesN32} {world : World Registry} :
    AlikeBut listed world world :=
  alikeBut_of_agree rfl rfl rfl fun _ _ => rfl

omit [RegistryApi Registry] in
/-- The same hashes are stored in both states. -/
theorem AlikeBut.storeHashes_both (alike : AlikeBut listed world other) :
    AlikeBut listed (world.withDiscounts (storeHashes added))
      (other.withDiscounts (storeHashes added)) := by
  obtain ⟨hashes, rfl⟩ := alike
  refine alikeBut_of_agree rfl ?_ ?_ fun hash unlisted => ?_
  · show (storeHashes added _).hashUsed = (storeHashes added _).hashUsed
    rw [storeHashes_hashUsed, storeHashes_hashUsed]
  · show (storeHashes added _).code = (storeHashes added _).code
    rw [storeHashes_code, storeHashes_code]
  · show (storeHashes added _).hash.get hash = (storeHashes added _).hash.get hash
    rw [get_storeHashes, get_storeHashes, Store.get_redirect_of_notMem unlisted]

omit [RegistryApi Registry] in
/-- Listed hashes are stored in one of the states. -/
theorem AlikeBut.storeHashes_one (alike : AlikeBut listed world other)
    (only : ∀ hash ∈ added, hash ∈ listed) :
    AlikeBut listed world (other.withDiscounts (storeHashes added)) := by
  obtain ⟨hashes, rfl⟩ := alike
  refine alikeBut_of_agree rfl (storeHashes_hashUsed added _) (storeHashes_code added _)
    fun hash unlisted => ?_
  show (storeHashes added _).hash.get hash = _
  rw [get_storeHashes, if_neg fun member => unlisted (only hash member),
    Store.get_redirect_of_notMem unlisted]

end Alike

/-! ### The steps of the two runs -/

/-- The hashes that the action stores for the event. -/
def Action.hashesFor (eventId : EventId) (action : Action host Registry) : List BytesN32 :=
  match action.hashesAdded with
  | some (other, hashes) => if other = eventId then hashes else []
  | none => []

/-- The action stores hashes for the event. -/
def Action.addsFor (eventId : EventId) (action : Action host Registry) : Bool :=
  match action.hashesAdded with
  | some (other, _) => other = eventId
  | none => false

omit [RegistryApi Registry] in
theorem hashesAdded_eq_some {action : Action host Registry} {eventId : EventId}
    {added : List BytesN32} (adds : action.hashesAdded = some (eventId, added)) :
    ∃ env, action = .call env (.configure (.addDiscountHashes eventId added)) := by
  unfold Action.hashesAdded at adds
  split at adds
  · cases adds
    exact ⟨_, rfl⟩
  · cases adds

section Steps

variable {listed : List BytesN32} {eventId : EventId} {world other : World Registry}
  {action : Action host Registry}

/-- A step that both runs take. -/
theorem AlikeBut.step_both (unlisted : ∀ hash ∈ action.presented, hash ∉ listed)
    (alike : AlikeBut listed world other) :
    AlikeBut listed (step world action) (step other action) := by
  cases adds : action.hashesAdded with
  | none =>
    obtain ⟨hashes, rfl⟩ := alike
    exact ⟨hashes, step_withListed adds unlisted world⟩
  | some pair =>
    obtain ⟨env, rfl⟩ := hashesAdded_eq_some adds
    show AlikeBut listed (commit (addDiscountHashes env pair.1 pair.2) world)
      (commit (addDiscountHashes env pair.1 pair.2) other)
    have same : accepted (addDiscountHashes env pair.1 pair.2) other =
        accepted (addDiscountHashes env pair.1 pair.2) world := by
      obtain ⟨hashes, rfl⟩ := alike
      exact accepted_addDiscountHashes env pair.1 pair.2
    rw [commit_addDiscountHashes, commit_addDiscountHashes, same]
    split
    · exact alike.storeHashes_both
    · exact alike

/-- A step that stores listed hashes in one of the runs. -/
theorem AlikeBut.step_one (adds : action.addsFor eventId = true)
    (only : ∀ hash ∈ action.hashesFor eventId, hash ∈ listed)
    (alike : AlikeBut listed world other) : AlikeBut listed world (step other action) := by
  unfold Action.addsFor at adds
  split at adds
  case h_1 event added stored =>
    obtain ⟨env, rfl⟩ := hashesAdded_eq_some stored
    have own : event = eventId := of_decide_eq_true adds
    show AlikeBut listed world (commit (addDiscountHashes env event added) other)
    rw [commit_addDiscountHashes]
    split
    · refine alike.storeHashes_one fun hash member => only hash ?_
      show hash ∈ if event = eventId then added else []
      rw [if_pos own]
      exact member
    · exact alike
  case h_2 => cases adds

variable {charged : EventId}

/-- A payment that both runs make comes to the same in both. -/
theorem AlikeBut.paymentOutcome_eq (unlisted : ∀ hash ∈ action.presented, hash ∉ listed)
    (alike : AlikeBut listed world other) :
    paymentOutcome charged other action = paymentOutcome charged world action := by
  obtain ⟨hashes, rfl⟩ := alike
  unfold paymentOutcome
  split
  case h_1 env purchase =>
    have : HashBlind listed hashes (processPayment env purchase : Entry Registry PaymentId) :=
      processPayment_blind env purchase (unlisted_of_presented unlisted)
    rw [accepted_change, commit_change]
  case h_2 => rfl

/-- What stores hashes is not a payment. -/
theorem paymentOutcome_of_addsFor (adds : action.addsFor eventId = true) :
    paymentOutcome charged other action = none := by
  unfold Action.addsFor at adds
  split at adds
  case h_1 event added stored =>
    obtain ⟨env, rfl⟩ := hashesAdded_eq_some stored
    rfl
  case h_2 => cases adds

end Steps

/-! ### The two runs -/

/-- What comes of the payments for an event is what comes of them in the run without the hashes
that are stored for another one, if no payment presents one of these. -/
theorem paymentOutcomes_filter {registry : Registry} {eventId charged : EventId}
    {listed : List BytesN32} {actions : List (Action host Registry)}
    (unpresented : ∀ action ∈ actions, ∀ hash ∈ action.presented, hash ∉ listed)
    (only : ∀ action ∈ actions, ∀ hash ∈ action.hashesFor eventId, hash ∈ listed) :
    paymentOutcomes registry charged actions =
      paymentOutcomes registry charged (actions.filter (!·.addsFor eventId)) := by
  refine runOutputs_filter
    (fun action => (∀ hash ∈ action.presented, hash ∉ listed) ∧
      ∀ hash ∈ action.hashesFor eventId, hash ∈ listed)
    _ (AlikeBut listed) ?seen ?hidden
    (fun action member => ⟨unpresented action member, only action member⟩)
    AlikeBut.refl
  case seen =>
    intro world other action kind _ alike
    exact ⟨alike.step_both kind.1, alike.paymentOutcome_eq kind.1⟩
  case hidden =>
    intro world other action kind hidden alike
    have adds : action.addsFor eventId = true := by simpa using hidden
    exact ⟨alike.step_one adds kind.2, paymentOutcome_of_addsFor adds⟩

/-- The hashes that a run stores for the event. -/
def hashesFor (eventId : EventId) (actions : List (Action host Registry)) : List BytesN32 :=
  actions.flatMap (·.hashesFor eventId)

/-- Two runs that differ only in the hashes that are stored for one event charge the same for
another one and accept the same payments, if no payment presents one of these hashes. -/
theorem payments_ignore_hashes_of_others (registry : Registry) (eventId charged : EventId)
    (first second : List (Action host Registry))
    (same : first.filter (!·.addsFor eventId) = second.filter (!·.addsFor eventId))
    (unpresented : ∀ action ∈ first ++ second, ∀ hash ∈ action.presented,
      hash ∉ hashesFor eventId (first ++ second)) :
    paymentOutcomes registry charged first = paymentOutcomes registry charged second := by
  have only (action : Action host Registry) (member : action ∈ first ++ second) :
      ∀ hash ∈ action.hashesFor eventId, hash ∈ hashesFor eventId (first ++ second) :=
    fun hash stored => List.mem_flatMap.mpr ⟨action, member, stored⟩
  rw [paymentOutcomes_filter
      (fun action member => unpresented action (List.mem_append_left second member))
      (fun action member => only action (List.mem_append_left second member)),
    paymentOutcomes_filter
      (fun action member => unpresented action (List.mem_append_right first member))
      (fun action member => only action (List.mem_append_right first member)), same]

/-! ### Two organizers -/

/-- Bob gives the festival, somebody else the concert. -/
def twoOrganizers : EventRegistry.Registry :=
  { twoEvents with
    events := twoEvents.events.set "festival"
      { concert with organizerAddress := bobAddress, paymentAddress := bobAddress } }

/-- Only the organizer of the concert signs. -/
def organizerSigns (timestamp : Nat) : Env stage :=
  { allSign timestamp with
    signed := fun address => address = organizerAddress
    contract_silent := by decide }

/-- A code is announced for the concert. -/
def concertCodeStored : Action stage EventRegistry.Registry :=
  .call (organizerSigns 1) (.configure (.addDiscountHashes "concert" [stage.sha256 [1, 2, 3]]))

/-- Another code is announced for the festival. -/
def festivalCodeStored : Action stage EventRegistry.Registry :=
  .call (allSign 1) (.configure (.addDiscountHashes "festival" [stage.sha256 [4]]))

/-- Alice buys a ticket, with a code or without. -/
def paymentFor (eventId : EventId) (code : Option Bytes) : Action stage EventRegistry.Registry :=
  .call (allSign 2) (.processPayment
    { ticketFor aliceAddress "ticket" 1 with eventId, options := ⟨code, none, none⟩ })

/-- The code of the festival is worth the same whether or not the concert has one. -/
theorem festival_ignores_unpresented_code :
    let sale := [festivalCodeStored, paymentFor "festival" (some [4])]
    paymentOutcomes twoOrganizers "festival" (setUp ++ sale) = [.charged 900] ∧
      paymentOutcomes twoOrganizers "festival" (setUp ++ concertCodeStored :: sale) =
        paymentOutcomes twoOrganizers "festival" (setUp ++ sale) :=
  ⟨by decide,
    payments_ignore_hashes_of_others twoOrganizers "concert" "festival" _ _ rfl (by decide)⟩

/-- The code of the concert takes ten per cent off a ticket of the festival, which is refused
without it. -/
theorem concert_code_discounts_festival :
    let stored := setUp ++ [concertCodeStored, paymentFor "festival" (some [1, 2, 3])]
    let notStored := setUp ++ [paymentFor "festival" (some [1, 2, 3])]
    stored.filter (!·.addsFor "concert") = notStored.filter (!·.addsFor "concert") ∧
      paymentOutcomes twoOrganizers "festival" stored = [.charged 900] ∧
      paymentOutcomes twoOrganizers "festival" notStored = [.refused] :=
  ⟨rfl, by decide, by decide⟩

-- The code presented where it belongs, at the concert, is felt at the festival as well: the payment
-- identifier is taken in the one run and free in the other.
example :
    let payments := [paymentFor "concert" (some [1, 2, 3]), paymentFor "festival" none]
    paymentOutcomes twoOrganizers "festival" (setUp ++ concertCodeStored :: payments) =
        [.refused] ∧
      paymentOutcomes twoOrganizers "festival" (setUp ++ payments) = [.charged 1000] := by
  decide

end Agora.TicketPayment

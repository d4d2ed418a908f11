/-
This file models series of events and the passes for them, and asks whether a pass is valid
exactly when it can be redeemed.

A holder asks for the validity of a pass by the series, and a redemption names the pass. The
two have their own ideas of a limit of zero and of an expiry. A pass that is redeemed is
stored again, together with the entry that leads from its holder to it.
-/

import Agora.EventRegistry.Catalog

namespace Agora.EventRegistry

open Soroban TicketPayment

/-! ### Data -/

abbrev SeriesId := String

abbrev PassId := String

structure SeriesRegistry where
  seriesId : SeriesId
  name : String
  eventIds : List EventId
  organizerAddress : Address
  metadataCid : Option String
  deriving DecidableEq, Repr

structure SeriesPass where
  passId : PassId
  seriesId : SeriesId
  holder : Address
  usageLimit : Nat
  usageCount : Nat
  issuedAt : Nat
  expiresAt : Nat
  deriving DecidableEq, Repr

/-- What the registry stores of series. A pass is stored under the id it names. -/
structure SeriesStorage where
  series : Store SeriesId SeriesRegistry
  seriesPass : Store PassId SeriesPass
  holderSeriesPass : Store (Address × SeriesId) PassId
  keyed : ∀ passId, ∀ pass ∈ seriesPass.get passId, pass.passId = passId

/-- An entry point of the registry that is about series. -/
abbrev SeriesEntry (Value : Type) := Transaction SeriesStorage (Fault EventRegistryError) Value

namespace SeriesStorage

def empty : SeriesStorage where
  series := .empty
  seriesPass := .empty
  holderSeriesPass := .empty
  keyed _ _ absent := by cases absent

variable (storage : SeriesStorage)

def storeSeries (series : SeriesRegistry) : SeriesStorage :=
  { storage with series := storage.series.set series.seriesId series }

/-- The pass becomes the one of its holder. -/
def storeSeriesPass (pass : SeriesPass) : SeriesStorage :=
  { storage with
    seriesPass := storage.seriesPass.set pass.passId pass
    holderSeriesPass := storage.holderSeriesPass.set (pass.holder, pass.seriesId) pass.passId
    keyed := Store.forall_set storage.keyed rfl }

theorem seriesPass_storeSeriesPass (pass : SeriesPass) :
    (storage.storeSeriesPass pass).seriesPass = storage.seriesPass.set pass.passId pass := rfl

def getHolderSeriesPass (holder : Address) (seriesId : SeriesId) : Option SeriesPass :=
  (storage.holderSeriesPass.get (holder, seriesId)).bind storage.seriesPass.get

end SeriesStorage

namespace SeriesPass

variable (pass : SeriesPass)

/-- An expiry of zero is none. -/
def Expired (timestamp : Nat) : Prop :=
  0 < pass.expiresAt ∧ pass.expiresAt ≤ timestamp

instance (timestamp : Nat) : Decidable (pass.Expired timestamp) :=
  inferInstanceAs (Decidable (_ ∧ _))

/-- The pass after one more redemption. -/
def redeemed : SeriesPass :=
  { pass with usageCount := pass.usageCount + 1 }

end SeriesPass

/-- A limit of zero is none. -/
def hasValidSeriesPass (storage : SeriesStorage) (timestamp : Nat) (holder : Address)
    (seriesId : SeriesId) : Bool :=
  match storage.getHolderSeriesPass holder seriesId with
  | none => false
  | some pass =>
    if 0 < pass.usageLimit ∧ pass.usageLimit ≤ pass.usageCount then false
    else if pass.Expired timestamp then false
    else true

/-! ### Entry points -/

/-- Every event is stored and belongs to the organizer. -/
def requireOwnEvents (registry : Registry) (organizer : Address) :
    List EventId → SeriesEntry Unit
  | [] => pure ()
  | eventId :: rest => do
    let event ← orFault (registry.events.get eventId) (.error .eventNotFound)
    require (event.organizerAddress = organizer) (.error .unauthorized)
    requireOwnEvents registry organizer rest

/-- The id may name a series that is stored already; that series is lost. -/
def registerSeries (registry : Registry) (signed : Address → Bool) (series : SeriesRegistry) :
    SeriesEntry Unit := do
  require (signed series.organizerAddress = true) .trap
  requireOwnEvents registry series.organizerAddress series.eventIds
  modify (·.storeSeries series)

/-- The id may name a pass of any series; that pass is lost. -/
def issueSeriesPass (signed : Address → Bool) (timestamp : Nat) (passId : PassId)
    (seriesId : SeriesId) (holder : Address) (usageLimit expiresAt : Nat) :
    SeriesEntry Unit := do
  let storage ← get
  let series ← orFault (storage.series.get seriesId) (.error .eventNotFound)
  require (signed series.organizerAddress = true) .trap
  modify (·.storeSeriesPass ⟨passId, seriesId, holder, usageLimit, 0, timestamp, expiresAt⟩)

/-- Anybody may redeem a pass. A limit of zero leaves nothing to redeem, and the expiry is not
looked at. -/
def incrementSeriesPassUsage (passId : PassId) : SeriesEntry Unit := do
  let storage ← get
  let pass ← orFault (storage.seriesPass.get passId) (.error .eventNotFound)
  require (pass.usageCount < pass.usageLimit) (.error .eventNotFound)
  modify (·.storeSeriesPass pass.redeemed)

/-! ### The machine -/

inductive SeriesCall where
  | registerSeries (series : SeriesRegistry)
  | issueSeriesPass (passId : PassId) (seriesId : SeriesId) (holder : Address)
      (usageLimit expiresAt : Nat)
  | incrementSeriesPassUsage (passId : PassId)

/-- The registry and its series. -/
structure Season where
  registry : Registry
  storage : SeriesStorage

/-- One step: a call about series, or any other call of the registry. -/
inductive SeasonAction where
  | series (invocation : Invocation) (call : SeriesCall)
  | registry (invocation : Invocation) (call : CatalogCall)

def SeriesCall.entry (registry : Registry) (invocation : Invocation) :
    SeriesCall → SeriesEntry Unit
  | .registerSeries series => EventRegistry.registerSeries registry invocation.signed series
  | .issueSeriesPass passId seriesId holder usageLimit expiresAt =>
    EventRegistry.issueSeriesPass invocation.signed invocation.timestamp passId seriesId holder
      usageLimit expiresAt
  | .incrementSeriesPassUsage passId => EventRegistry.incrementSeriesPassUsage passId

def seasonStep (season : Season) : SeasonAction → Season
  | .series invocation call =>
    { season with storage := commit (call.entry season.registry invocation) season.storage }
  | .registry invocation call =>
    { season with registry := catalogStep season.registry (invocation, call) }

def Season.fresh : Season := ⟨.vacant, .empty⟩

/-! ### What the calls do -/

/-- What a call that is accepted does to the series, with what it has checked. -/
inductive SeriesTurn (invocation : Invocation) (storage : SeriesStorage) :
    SeriesCall → SeriesStorage → Prop
  | registered (series : SeriesRegistry)
      (signed : invocation.signed series.organizerAddress = true) :
      SeriesTurn invocation storage (.registerSeries series) (storage.storeSeries series)
  | issued (series : SeriesRegistry) (passId : PassId) (seriesId : SeriesId) (holder : Address)
      (usageLimit expiresAt : Nat) (stored : storage.series.get seriesId = some series)
      (signed : invocation.signed series.organizerAddress = true) :
      SeriesTurn invocation storage
        (.issueSeriesPass passId seriesId holder usageLimit expiresAt)
        (storage.storeSeriesPass
          ⟨passId, seriesId, holder, usageLimit, 0, invocation.timestamp, expiresAt⟩)
  | redeemed (passId : PassId) (pass : SeriesPass)
      (stored : storage.seriesPass.get passId = some pass)
      (left : pass.usageCount < pass.usageLimit) :
      SeriesTurn invocation storage (.incrementSeriesPassUsage passId)
        (storage.storeSeriesPass pass.redeemed)

variable {storage : SeriesStorage} {registry : Registry}

theorem requireOwnEvents_ensures {organizer : Address} {eventIds : List EventId} :
    Ensures (requireOwnEvents registry organizer eventIds) storage fun _ next =>
      next = storage := by
  induction eventIds with
  | nil =>
    rw [requireOwnEvents, ensures_pure]
  | cons eventId rest inductionHypothesis =>
    simp only [requireOwnEvents, ensures_rules]
    intro _ _ _
    exact inductionHypothesis

theorem SeriesCall.entry_ensures {invocation : Invocation} (call : SeriesCall) :
    Ensures (call.entry registry invocation) storage fun _ next =>
      SeriesTurn invocation storage call next := by
  cases call with
  | registerSeries series =>
    simp only [SeriesCall.entry, EventRegistry.registerSeries, ensures_rules]
    intro signed
    refine requireOwnEvents_ensures.mono ?_
    rintro _ _ rfl
    exact .registered series signed
  | issueSeriesPass passId seriesId holder usageLimit expiresAt =>
    simp only [SeriesCall.entry, EventRegistry.issueSeriesPass, ensures_rules]
    intro series stored signed
    exact .issued series passId seriesId holder usageLimit expiresAt stored signed
  | incrementSeriesPassUsage passId =>
    simp only [SeriesCall.entry, EventRegistry.incrementSeriesPassUsage, ensures_rules]
    intro pass stored left
    exact .redeemed passId pass stored left

/-- A call about series is refused, or takes its turn. -/
theorem seriesCall_cases (season : Season) (invocation : Invocation) (call : SeriesCall) :
    (accepted (call.entry season.registry invocation) season.storage = false ∧
        (seasonStep season (.series invocation call)).storage = season.storage) ∨
      accepted (call.entry season.registry invocation) season.storage = true ∧
        SeriesTurn invocation season.storage call
          (seasonStep season (.series invocation call)).storage := by
  obtain refused | ⟨done, _, run⟩ := commit_cases_accepted
    (call.entry season.registry invocation) season.storage
  · exact .inl refused
  · exact .inr ⟨done, call.entry_ensures _ _ run⟩

/-! ### Validity and redemption -/

theorem incrementSeriesPassUsage_accepted_iff {passId : PassId} :
    accepted (incrementSeriesPassUsage passId) storage = true ↔
      ∃ pass, storage.seriesPass.get passId = some pass ∧ pass.usageCount < pass.usageLimit := by
  simp [accepted_eq_true_iff, incrementSeriesPassUsage, succeeds_rules]

variable {holder : Address} {seriesId : SeriesId} {pass : SeriesPass}

section

variable (found : storage.getHolderSeriesPass holder seriesId = some pass)

include found

theorem hasValidSeriesPass_iff (timestamp : Nat) :
    hasValidSeriesPass storage timestamp holder seriesId = true ↔
      ¬(0 < pass.usageLimit ∧ pass.usageLimit ≤ pass.usageCount) ∧ ¬pass.Expired timestamp := by
  rw [hasValidSeriesPass, found]
  by_cases used : 0 < pass.usageLimit ∧ pass.usageLimit ≤ pass.usageCount
  · simp [used]
  · by_cases expired : pass.Expired timestamp
    · simp [used, expired]
    · simp [used]

/-- The pass that a holder is led to is stored under its own id. -/
theorem seriesPass_of_getHolderSeriesPass : storage.seriesPass.get pass.passId = some pass := by
  obtain ⟨passId, _, stored⟩ := Option.bind_eq_some_iff.mp found
  rw [storage.keyed passId pass stored]
  exact stored

/-- A pass without a limit has expired; one that is not used up has not. -/
def SeriesPass.Agrees (pass : SeriesPass) (timestamp : Nat) : Prop :=
  if pass.usageLimit = 0 then pass.Expired timestamp
  else pass.usageCount < pass.usageLimit → ¬pass.Expired timestamp

instance (pass : SeriesPass) (timestamp : Nat) : Decidable (pass.Agrees timestamp) :=
  inferInstanceAs (Decidable (if pass.usageLimit = 0 then pass.Expired timestamp
    else pass.usageCount < pass.usageLimit → ¬pass.Expired timestamp))

/-- The pass of a holder is valid exactly when it can be redeemed, in the states in which the
two agree. -/
theorem redeemable_iff_valid_iff {timestamp : Nat} :
    (accepted (incrementSeriesPassUsage pass.passId) storage = true ↔
        hasValidSeriesPass storage timestamp holder seriesId = true) ↔
      pass.Agrees timestamp := by
  have redeemable : accepted (incrementSeriesPassUsage pass.passId) storage = true ↔
      pass.usageCount < pass.usageLimit := by
    rw [incrementSeriesPassUsage_accepted_iff, seriesPass_of_getHolderSeriesPass found]
    simp
  rw [redeemable, hasValidSeriesPass_iff found, SeriesPass.Agrees]
  by_cases unlimited : pass.usageLimit = 0
  · simp [unlimited]
  · have positive : 0 < pass.usageLimit := Nat.pos_of_ne_zero unlimited
    by_cases left : pass.usageCount < pass.usageLimit
    · simp [unlimited, left]
    · simp [unlimited, Nat.not_lt.mp left]

end

/-! ### Redemptions in a run -/

/-- The redemptions of the pass in a step. -/
def redemptions (passId : PassId) (season : Season) : SeasonAction → Nat
  | .series _ (.incrementSeriesPassUsage redeemed) =>
    if redeemed = passId ∧ accepted (incrementSeriesPassUsage redeemed) season.storage = true then 1
    else 0
  | _ => 0

/-- The condition on a step: the pass is not issued a second time, and is redeemed only while
its validity and its redemption agree. -/
def RedeemsValid (passId : PassId) (season : Season) : SeasonAction → Prop
  | .series _ (.issueSeriesPass issued _ _ _ _) =>
    issued = passId → season.storage.seriesPass.get passId = none
  | .series invocation (.incrementSeriesPassUsage redeemed) =>
    redeemed = passId → ∀ pass ∈ season.storage.seriesPass.get passId,
      pass.Agrees invocation.timestamp
  | _ => True

variable {invocation : Invocation} {call : SeriesCall}

/-- What an accepted call does to one pass. -/
theorem SeriesTurn.pass_cases {next : SeriesStorage}
    (turn : SeriesTurn invocation storage call next) (passId : PassId) :
    (next.seriesPass.get passId = storage.seriesPass.get passId ∧
        call ≠ .incrementSeriesPassUsage passId) ∨
      (∃ seriesId holder usageLimit expiresAt,
        call = .issueSeriesPass passId seriesId holder usageLimit expiresAt ∧
          next.seriesPass.get passId = some
            ⟨passId, seriesId, holder, usageLimit, 0, invocation.timestamp, expiresAt⟩) ∨
      ∃ pass, call = .incrementSeriesPassUsage passId ∧
        storage.seriesPass.get passId = some pass ∧ pass.usageCount < pass.usageLimit ∧
        next.seriesPass.get passId = some pass.redeemed := by
  cases turn with
  | registered series signed => exact .inl ⟨rfl, fun same => by cases same⟩
  | issued series issued seriesId holder usageLimit expiresAt stored signed =>
    rw [SeriesStorage.seriesPass_storeSeriesPass, Store.get_set]
    by_cases mine : passId = issued
    · subst mine
      exact .inr (.inl ⟨seriesId, holder, usageLimit, expiresAt, rfl, if_pos rfl⟩)
    · exact .inl ⟨if_neg mine, fun same => by cases same⟩
  | redeemed redeemed pass stored left =>
    have named : pass.redeemed.passId = redeemed := storage.keyed redeemed pass stored
    rw [SeriesStorage.seriesPass_storeSeriesPass, named, Store.get_set]
    by_cases mine : passId = redeemed
    · subst mine
      exact .inr (.inr ⟨pass, rfl, stored, left, if_pos rfl⟩)
    · refine .inl ⟨if_neg mine, fun same => mine ?_⟩
      cases same
      rfl

/-- So many redemptions are counted on the pass, and there was room for them. -/
def RedeemedSoFar (total : Nat) : Option SeriesPass → Prop
  | none => total = 0
  | some pass => total = pass.usageCount ∧ pass.usageCount ≤ pass.usageLimit

variable {passId : PassId} {season : Season}

theorem redemptions_eq_zero (other : call ≠ .incrementSeriesPassUsage passId) :
    redemptions passId season (.series invocation call) = 0 := by
  cases call with
  | registerSeries series => rfl
  | issueSeriesPass issued seriesId holder usageLimit expiresAt => rfl
  | incrementSeriesPassUsage redeemed =>
    refine if_neg fun both => other ?_
    rw [both.1]

theorem RedeemedSoFar.step {total : Nat}
    (soFar : RedeemedSoFar total (season.storage.seriesPass.get passId)) (action : SeasonAction)
    (valid : RedeemsValid passId season action) :
    RedeemedSoFar (total + redemptions passId season action)
      ((seasonStep season action).storage.seriesPass.get passId) := by
  cases action with
  | registry invocation call => exact soFar
  | series invocation call =>
    obtain ⟨refused, same⟩ | ⟨done, turn⟩ := seriesCall_cases season invocation call
    · have nothing : redemptions passId season (.series invocation call) = 0 := by
        by_cases other : call = .incrementSeriesPassUsage passId
        · subst other
          exact if_neg fun both => Bool.false_ne_true (refused.symm.trans both.2)
        · exact redemptions_eq_zero other
      rw [nothing, same]
      exact soFar
    · obtain ⟨same, other⟩ | ⟨_, _, _, _, rfl, new⟩ | ⟨pass, rfl, stored, left, new⟩ :=
        turn.pass_cases passId
      · rw [redemptions_eq_zero other, same]
        exact soFar
      · rw [valid rfl] at soFar
        rw [new]
        exact ⟨soFar, Nat.zero_le _⟩
      · have once : redemptions passId season
            (.series invocation (.incrementSeriesPassUsage passId)) = 1 := if_pos ⟨rfl, done⟩
        rw [stored] at soFar
        rw [once, new]
        exact ⟨congrArg (· + 1) soFar.1, left⟩

/-- A redemption that is counted is of a pass with something left on it. -/
theorem exists_of_redemptions_pos {action : SeasonAction}
    (positive : 0 < redemptions passId season action) :
    ∃ invocation pass, action = .series invocation (.incrementSeriesPassUsage passId) ∧
      season.storage.seriesPass.get passId = some pass ∧ pass.usageCount < pass.usageLimit := by
  cases action with
  | registry invocation call => exact absurd positive (Nat.lt_irrefl 0)
  | series invocation call =>
    by_cases other : call = .incrementSeriesPassUsage passId
    · subst other
      by_cases done : accepted (incrementSeriesPassUsage passId) season.storage = true
      · obtain ⟨pass, stored, left⟩ := incrementSeriesPassUsage_accepted_iff.mp done
        exact ⟨invocation, pass, rfl, stored, left⟩
      · rw [redemptions, if_neg fun both => done both.2] at positive
        exact absurd positive (Nat.lt_irrefl 0)
    · rw [redemptions_eq_zero other] at positive
      exact absurd positive (Nat.lt_irrefl 0)

/-- The time at which a step is taken. -/
def SeasonAction.timestamp : SeasonAction → Nat
  | .series invocation _ => invocation.timestamp
  | .registry invocation _ => invocation.timestamp

/-- In every state of every run, the pass of a holder is valid exactly when it can be redeemed if
and only if the two agree on its limit and its expiry. And in every run in which a pass is not
issued twice and is redeemed only while the two agree, it is redeemed at most as often as its
limit allows, and not after its expiry. -/
theorem series_pass_redemption (actions : List SeasonAction) :
    let season := runActions seasonStep .fresh actions
    (∀ holder seriesId pass timestamp,
        season.storage.getHolderSeriesPass holder seriesId = some pass →
          ((accepted (incrementSeriesPassUsage pass.passId) season.storage = true ↔
              hasValidSeriesPass season.storage timestamp holder seriesId = true) ↔
            pass.Agrees timestamp)) ∧
      ∀ passId, Respects seasonStep (RedeemsValid passId) .fresh actions →
        (∀ pass ∈ season.storage.seriesPass.get passId,
          runTotal seasonStep (redemptions passId) .fresh actions ≤ pass.usageLimit) ∧
        ∀ state action, StepOf seasonStep .fresh actions state action →
          0 < redemptions passId state action →
          ∀ pass ∈ state.storage.seriesPass.get passId, ¬pass.Expired action.timestamp := by
  intro season
  refine ⟨fun holder seriesId pass timestamp found => redeemable_iff_valid_iff found,
    fun passId valid => ⟨fun pass stored => ?_, ?_⟩⟩
  · have soFar := runTotal_invariant
      (fun (season : Season) total =>
        RedeemedSoFar total (season.storage.seriesPass.get passId))
      (redemptions passId) (fun _ _ action meets soFar => soFar.step action meets) .fresh 0 actions
      valid rfl
    have read : season.storage.seriesPass.get passId = some pass := stored
    rw [read, zero_add] at soFar
    exact soFar.1.trans_le soFar.2
  · intro state action taken positive pass stored
    obtain ⟨invocation, found, rfl, foundStored, left⟩ := exists_of_redemptions_pos positive
    cases foundStored.symm.trans stored
    have agrees := valid.stepOf taken rfl pass stored
    rw [SeriesPass.Agrees, if_neg (Nat.ne_of_gt (Nat.zero_lt_of_lt left))] at agrees
    exact agrees left

/-! ### A season pass -/

/-- The organizer has a series of one concert. -/
def seasonOpen : List SeasonAction :=
  [.registry opening.1 opening.2,
    .registry everybodySigns (.call (.registerEvent smallConcert)),
    .series everybodySigns (.registerSeries ⟨"summer", "Summer", ["concert"], organizerAddress,
      none⟩)]

/-- Alice gets a pass. -/
def passIssued (usageLimit expiresAt : Nat) : SeasonAction :=
  .series everybodySigns (.issueSeriesPass "pass" "summer" aliceAddress usageLimit expiresAt)

def passRedeemed (timestamp : Nat) : SeasonAction :=
  .series { everybodySigns with timestamp := timestamp } (.incrementSeriesPassUsage "pass")

/-- A pass for one concert is redeemed once. -/
theorem single_pass_redeemed_once :
    ∃ pass, (runActions seasonStep .fresh (seasonOpen ++ [passIssued 1 10, passRedeemed
        5])).storage.seriesPass.get "pass" = some pass ∧
      runTotal seasonStep (redemptions "pass") .fresh (seasonOpen ++ [passIssued 1 10,
        passRedeemed 5]) ≤ pass.usageLimit := by
  have stored : (runActions seasonStep .fresh (seasonOpen ++ [passIssued 1 10, passRedeemed
      5])).storage.seriesPass.get "pass" =
      some ⟨"pass", "summer", aliceAddress, 1, 1, 0, 10⟩ := by
    decide +kernel
  have valid : Respects seasonStep (RedeemsValid "pass") .fresh
      (seasonOpen ++ [passIssued 1 10, passRedeemed 5]) := by
    refine ⟨trivial, trivial, trivial, fun _ => by decide +kernel, fun _ pass found => ?_, trivial⟩
    have before : (runActions seasonStep .fresh
        (seasonOpen ++ [passIssued 1 10])).storage.seriesPass.get "pass" =
          some ⟨"pass", "summer", aliceAddress, 1, 0, 0, 10⟩ := by
      decide +kernel
    cases before.symm.trans found
    decide
  exact ⟨_, stored, ((series_pass_redemption _).2 "pass" valid).1 _ stored⟩

/-- A pass without a limit is valid and cannot be redeemed. A pass that has expired is not valid
and is redeemed. And a pass for one concert is issued twice and redeemed twice. -/
theorem series_pass_disagrees :
    let unlimited := runActions seasonStep .fresh (seasonOpen ++ [passIssued 0 0])
    let expired := runActions seasonStep .fresh (seasonOpen ++ [passIssued 1 10])
    let reissued := seasonOpen ++ [passIssued 1 0, passRedeemed 1, passIssued 1 0, passRedeemed 2]
    (hasValidSeriesPass unlimited.storage 1 aliceAddress "summer" = true ∧
        accepted (incrementSeriesPassUsage "pass") unlimited.storage = false) ∧
      (hasValidSeriesPass expired.storage 10 aliceAddress "summer" = false ∧
        accepted (incrementSeriesPassUsage "pass") expired.storage = true) ∧
      runTotal seasonStep (redemptions "pass") .fresh reissued = 2 ∧
      (((runActions seasonStep .fresh reissued).storage.seriesPass.get "pass").map
        (·.usageLimit)) = some 1 := by
  decide +kernel

end Agora.EventRegistry

/-
This file asks whether one organizer can touch the series and the passes of another one.

The keys under which series and passes are stored are chosen by the caller. A registration
asks for the signature of the new organizer and not of the old one, a pass is issued by the
organizer of its series whatever series the id has been used for, and a redemption asks for
no signature at all. Where these three are kept apart, the founder of a series is the only
one who changes it.
-/

import Agora.EventRegistry.Series

namespace Agora.EventRegistry

open Soroban TicketPayment

/-! ### Founders -/

/-- The organizers that registered a series first. -/
abbrev Founders := SeriesId → Option Address

def founded (season : Season) (action : SeasonAction) (founders : Founders) : Founders :=
  match action with
  | .series invocation (.registerSeries series) =>
    if accepted (registerSeries season.registry invocation.signed series) season.storage = true then
      fun seriesId =>
        if seriesId = series.seriesId ∧ founders seriesId = none then some series.organizerAddress
        else founders seriesId
    else founders
  | _ => founders

/-- The organizer of the first registration of a series in a run. -/
def founder (actions : List SeasonAction) : Founders :=
  runFold seasonStep founded .fresh actions fun _ => none

/-- The condition on a step: a stored series is registered anew by its organizer only, a stored
pass is issued anew for its own series only, and a pass is redeemed with the signature of the
organizer of its series. -/
def KeepsOwners (season : Season) : SeasonAction → Prop
  | .series _ (.registerSeries series) =>
    ∀ stored ∈ season.storage.series.get series.seriesId,
      stored.organizerAddress = series.organizerAddress
  | .series _ (.issueSeriesPass passId seriesId _ _ _) =>
    ∀ pass ∈ season.storage.seriesPass.get passId, pass.seriesId = seriesId
  | .series invocation (.incrementSeriesPassUsage passId) =>
    ∀ pass ∈ season.storage.seriesPass.get passId,
      ∀ series ∈ season.storage.series.get pass.seriesId,
        invocation.signed series.organizerAddress = true
  | .registry _ _ => True

/-- The founder of a series is its organizer, the series of a pass is stored, and a holder is led
to a pass of the series. -/
structure Owned (storage : SeriesStorage) (founders : Founders) : Prop where
  founders : ∀ seriesId, founders seriesId =
    (storage.series.get seriesId).map (·.organizerAddress)
  home : ∀ passId, ∀ pass ∈ storage.seriesPass.get passId,
    (storage.series.get pass.seriesId).isSome = true
  index : ∀ holder seriesId, ∀ passId ∈ storage.holderSeriesPass.get (holder, seriesId),
    ∃ pass, storage.seriesPass.get passId = some pass ∧ pass.seriesId = seriesId

namespace Owned

variable {storage : SeriesStorage} {founders : Founders}

theorem empty : Owned .empty fun _ => none where
  founders _ := rfl
  home _ _ stored := by cases stored
  index _ _ _ stored := by cases stored

/-- A pass of a stored series is written, in the place of another one of this series or of
none. -/
theorem storeSeriesPass (owned : Owned storage founders) {pass : SeriesPass}
    (home : (storage.series.get pass.seriesId).isSome = true)
    (replaces : ∀ old ∈ storage.seriesPass.get pass.passId, old.seriesId = pass.seriesId) :
    Owned (storage.storeSeriesPass pass) founders where
  founders := owned.founders
  home := Store.forall_set owned.home home
  index holder seriesId passId leads := by
    rw [SeriesStorage.seriesPass_storeSeriesPass, Store.get_set]
    have led : (if (holder, seriesId) = (pass.holder, pass.seriesId) then some pass.passId
        else storage.holderSeriesPass.get (holder, seriesId)) = some passId := leads
    by_cases named : passId = pass.passId
    · rw [if_pos named]
      refine ⟨pass, rfl, ?_⟩
      split at led
      · rename_i same
        exact (Prod.mk.inj same).2.symm
      · obtain ⟨old, stored, series⟩ := owned.index holder seriesId passId led
        rw [← replaces old (named ▸ stored), series]
    · rw [if_neg named]
      split at led
      · exact absurd (Option.some.inj led).symm named
      · exact owned.index holder seriesId passId led

variable {series : SeriesRegistry}

theorem storeSeries (owned : Owned storage founders)
    (replaces : ∀ stored ∈ storage.series.get series.seriesId,
      stored.organizerAddress = series.organizerAddress) :
    Owned (storage.storeSeries series) fun seriesId =>
      if seriesId = series.seriesId ∧ founders seriesId = none then some series.organizerAddress
      else founders seriesId where
  founders seriesId := by
    show _ = ((storage.series.set series.seriesId series).get seriesId).map (·.organizerAddress)
    rw [Store.get_set]
    by_cases named : seriesId = series.seriesId
    · rw [if_pos named]
      have before := owned.founders seriesId
      cases stored : storage.series.get seriesId with
      | none =>
        rw [stored] at before
        rw [if_pos ⟨named, before⟩]
        rfl
      | some old =>
        rw [stored] at before
        have taken : ¬(seriesId = series.seriesId ∧ founders seriesId = none) := by
          rintro ⟨_, free⟩
          cases before.symm.trans free
        rw [if_neg taken, before, Option.map_some, Option.map_some,
          replaces old (named ▸ stored)]
    · rw [if_neg fun both => named both.1, if_neg named]
      exact owned.founders seriesId
  home passId pass stored := by
    show ((storage.series.set series.seriesId series).get pass.seriesId).isSome = true
    rw [Store.get_set]
    split
    · rfl
    · exact owned.home passId pass stored
  index := owned.index

/-- The organizer of a stored series is its founder. -/
theorem founder_eq (owned : Owned storage founders) {seriesId : SeriesId}
    (stored : storage.series.get seriesId = some series) :
    founders seriesId = some series.organizerAddress := by
  rw [owned.founders, stored]
  rfl

end Owned

variable {season : Season} {founders : Founders} {action : SeasonAction}

theorem Owned.step (owned : Owned season.storage founders) (keeps : KeepsOwners season action) :
    Owned (seasonStep season action).storage (founded season action founders) := by
  cases action with
  | registry invocation call => exact owned
  | series invocation call =>
    obtain ⟨refused, same⟩ | ⟨done, turn⟩ := seriesCall_cases season invocation call
    · have nobody : founded season (.series invocation call) founders = founders := by
        cases call with
        | registerSeries series =>
          exact if_neg fun done => Bool.false_ne_true (refused.symm.trans done)
        | issueSeriesPass _ _ _ _ _ => rfl
        | incrementSeriesPassUsage _ => rfl
      rw [same, nobody]
      exact owned
    · generalize (seasonStep season (.series invocation call)).storage = next at turn
      cases turn with
      | registered series signed =>
        have recorded : founded season (.series invocation (.registerSeries series)) founders =
            fun seriesId =>
              if seriesId = series.seriesId ∧ founders seriesId = none then
                some series.organizerAddress
              else founders seriesId := if_pos done
        rw [recorded]
        exact owned.storeSeries keeps
      | issued series passId seriesId holder usageLimit expiresAt stored signed =>
        exact owned.storeSeriesPass (Option.isSome_of_mem stored) keeps
      | redeemed passId pass stored left =>
        have key := season.storage.keyed passId pass stored
        refine owned.storeSeriesPass (owned.home passId pass stored) fun old oldStored => ?_
        have same : season.storage.seriesPass.get passId = some old := key ▸ oldStored
        cases stored.symm.trans same
        rfl

/-! ### What stays the same -/

/-- The series, its passes and what its holders are led to are the same. -/
structure SameSeries (seriesId : SeriesId) (storage next : SeriesStorage) : Prop where
  series : next.series.get seriesId = storage.series.get seriesId
  passes : ∀ passId pass, pass.seriesId = seriesId →
    (next.seriesPass.get passId = some pass ↔ storage.seriesPass.get passId = some pass)
  holders : ∀ holder, next.getHolderSeriesPass holder seriesId =
    storage.getHolderSeriesPass holder seriesId

variable {storage : SeriesStorage}

theorem SameSeries.refl {seriesId : SeriesId} :
    SameSeries seriesId storage storage :=
  ⟨rfl, fun _ _ _ => Iff.rfl, fun _ => rfl⟩

variable {seriesId : SeriesId}

theorem SameSeries.storeSeries {series : SeriesRegistry} (other : seriesId ≠ series.seriesId) :
    SameSeries seriesId storage (storage.storeSeries series) :=
  ⟨if_neg other, fun _ _ _ => Iff.rfl, fun _ => rfl⟩

/-- A pass of another series is written, in the place of one of that series or of none. -/
theorem SameSeries.storeSeriesPass {pass : SeriesPass} (owned : Owned storage founders)
    (other : seriesId ≠ pass.seriesId)
    (replaces : ∀ old ∈ storage.seriesPass.get pass.passId, old.seriesId = pass.seriesId) :
    SameSeries seriesId storage (storage.storeSeriesPass pass) where
  series := rfl
  passes passId found ofSeries := by
    rw [SeriesStorage.seriesPass_storeSeriesPass, Store.get_set]
    by_cases named : passId = pass.passId
    · subst named
      rw [if_pos rfl]
      refine iff_of_false (fun same => other ?_) fun stored => other ?_
      · rw [← ofSeries, Option.some.inj same]
      · rw [← ofSeries, replaces found stored]
    · rw [if_neg named]
  holders holder := by
    have led : (storage.storeSeriesPass pass).holderSeriesPass.get (holder, seriesId) =
        storage.holderSeriesPass.get (holder, seriesId) :=
      if_neg fun same => other (Prod.mk.inj same).2
    rw [SeriesStorage.getHolderSeriesPass, SeriesStorage.getHolderSeriesPass, led]
    cases leads : storage.holderSeriesPass.get (holder, seriesId) with
    | none => rfl
    | some passId =>
      obtain ⟨old, stored, ofSeries⟩ := owned.index holder seriesId passId leads
      have different : passId ≠ pass.passId := by
        rintro rfl
        exact other (ofSeries.symm.trans (replaces old stored))
      exact if_neg different

/-- The call is authorised by nobody but the address. -/
def SeasonAction.OnlyBy (address : Address) : SeasonAction → Prop
  | .series invocation _ => ∀ other, invocation.signed other = true → other = address
  | .registry invocation _ => ∀ other, invocation.signed other = true → other = address

/-- A step of somebody who is not the founder of a series leaves it alone. -/
theorem Owned.sameSeries (owned : Owned season.storage founders) (keeps : KeepsOwners season action)
    {address : Address} (onlyBy : action.OnlyBy address)
    (stranger : founded season action founders seriesId ≠ some address) :
    SameSeries seriesId season.storage (seasonStep season action).storage := by
  cases action with
  | registry invocation call => exact .refl
  | series invocation call =>
    obtain ⟨_, same⟩ | ⟨done, turn⟩ := seriesCall_cases season invocation call
    · rw [same]
      exact .refl
    · -- after the step the founder is still the organizer of the series that is stored
      have after := owned.step keeps
      generalize (seasonStep season (.series invocation call)).storage = next at turn after
      cases turn with
      | registered series signed =>
        refine .storeSeries ?_
        rintro rfl
        refine stranger ((after.founder_eq (Store.get_set_self _ _ _)).trans ?_)
        rw [onlyBy _ signed]
      | issued series passId issuedFor holder usageLimit expiresAt stored signed =>
        refine .storeSeriesPass owned ?_ keeps
        rintro rfl
        refine stranger ((owned.founder_eq stored).trans ?_)
        rw [onlyBy _ signed]
      | redeemed passId pass stored left =>
        have key := season.storage.keyed passId pass stored
        refine .storeSeriesPass owned ?_ fun old oldStored => ?_
        · rintro rfl
          obtain ⟨series, seriesStored⟩ :=
            Option.isSome_iff_exists.mp (owned.home passId pass stored)
          refine stranger ((owned.founder_eq seriesStored).trans ?_)
          rw [onlyBy _ (keeps pass stored series seriesStored)]
        · have same : season.storage.seriesPass.get passId = some old := key ▸ oldStored
          cases stored.symm.trans same
          rfl

/-- In every run in which series are registered anew by their organizers only, passes are issued
anew for their own series only, and redeemed with the signature of the organizer, no call that
is authorised by somebody else than the founder of a series changes the series, its passes or
what its holders are led to. -/
theorem strangers_leave_series (actions : List SeasonAction) (action : SeasonAction)
    (keeps : Respects seasonStep KeepsOwners .fresh (actions ++ [action])) (address : Address)
    (onlyBy : action.OnlyBy address) (seriesId : SeriesId)
    (stranger : founder (actions ++ [action]) seriesId ≠ some address) :
    let season := runActions seasonStep .fresh actions
    SameSeries seriesId season.storage (seasonStep season action).storage := by
  intro season
  obtain ⟨earlier, last, _⟩ := respects_append.mp keeps
  have owned : Owned season.storage (founder actions) :=
    respects_runFold (fun (season : Season) founders => Owned season.storage founders)
      (fun _ action _ meets owned => owned.step meets) .fresh actions _ earlier .empty
  refine owned.sameSeries last onlyBy ?_
  rwa [founder, runFold_append] at stranger

/-! ### Two organizers -/

/-- Only the address signs. -/
def signedBy (address : Address) : Invocation :=
  { everybodySigns with signed := fun other => other = address }

/-- Alice has a pass of the organizer's series, and Bob has a series of their own. -/
def twoSeries : List SeasonAction :=
  seasonOpen ++ [passIssued 3 0,
    .series (signedBy bobAddress) (.registerSeries ⟨"winter", "Winter", [], bobAddress, none⟩)]

/-- Bob issues a pass of their own series. -/
def bobIssues : SeasonAction :=
  .series (signedBy bobAddress) (.issueSeriesPass "other" "winter" bobAddress 1 0)

theorem bob_leaves_summer :
    let season := runActions seasonStep .fresh twoSeries
    accepted (issueSeriesPass (signedBy bobAddress).signed 0 "other" "winter" bobAddress 1 0)
        season.storage = true ∧
      SameSeries "summer" season.storage (seasonStep season bobIssues).storage := by
  refine ⟨by decide +kernel, strangers_leave_series twoSeries bobIssues ?_ bobAddress ?_ "summer"
    (by decide +kernel)⟩
  · refine ⟨trivial, trivial, ?_, ?_, ?_, ?_, trivial⟩
    · intro stored found
      cases found
    · intro pass found
      cases found
    · intro stored found
      cases found
    · intro pass found
      cases found
  · intro other signed
    exact of_decide_eq_true signed

/-- With nothing but their own signature, Bob registers the organizer's series as their own,
issues a pass under the id of Alice's pass, so that Alice's pass is gone, and redeems it. -/
theorem stranger_takes_series :
    let season := runActions seasonStep .fresh twoSeries
    let taken := seasonStep season (.series (signedBy bobAddress)
      (.registerSeries ⟨"summer", "Mine", [], bobAddress, none⟩))
    let replaced := seasonStep season (.series (signedBy bobAddress)
      (.issueSeriesPass "pass" "winter" bobAddress 1 0))
    let redeemed := seasonStep season (.series (signedBy bobAddress)
      (.incrementSeriesPassUsage "pass"))
    founder twoSeries "summer" = some organizerAddress ∧
      (taken.storage.series.get "summer").map (·.organizerAddress) = some bobAddress ∧
      (season.storage.getHolderSeriesPass aliceAddress "summer").map
          (fun pass => (pass.seriesId, pass.usageCount)) = some ("summer", 0) ∧
      (replaced.storage.getHolderSeriesPass aliceAddress "summer").map
          (fun pass => (pass.seriesId, pass.usageCount)) = some ("winter", 0) ∧
      (redeemed.storage.getHolderSeriesPass aliceAddress "summer").map
          (fun pass => (pass.seriesId, pass.usageCount)) = some ("summer", 1) := by
  decide +kernel

end Agora.EventRegistry

/-
This file is a small library of finite key-value stores: the persistent storage
of a contract, read through an optional value and written one key at a time.

A store is a partial function together with the proof that only finitely many
keys are bound, so that a sum over all keys is always a finite sum. Nothing here
names a particular contract.
-/

import Mathlib.Algebra.BigOperators.Finprod
import Mathlib.Algebra.FiniteSupport.Basic
import Mathlib.Algebra.Order.Ring.Int
import Mathlib.Data.Set.Card

namespace Agora

/-! ### Sums that change at one key -/

section FiniteSums

variable {Key : Type}

/-- A family that differs from a finitely supported one at a single key has the same sum up
to the change at that key. -/
theorem finsum_change (before after : Key → Int) (key : Key)
    (finite : before.HasFiniteSupport) (same : ∀ other, other ≠ key → after other = before other) :
    ∑ᶠ k, after k = ∑ᶠ k, before k + (after key - before key) := by
  classical
  have split : after = fun k => before k + (if k = key then after key - before key else 0) := by
    funext k
    by_cases equal : k = key
    · rw [if_pos equal, equal]
      ring
    · rw [if_neg equal, same k equal, add_zero]
  have spike : (fun k => if k = key then after key - before key else 0).HasFiniteSupport := by
    refine (Set.finite_singleton key).subset fun k member => ?_
    by_contra different
    exact member (if_neg different)
  have spikeSum : ∑ᶠ k, (if k = key then after key - before key else 0) =
      after key - before key := by
    rw [finsum_eq_single _ key fun k different => if_neg different, if_pos rfl]
  calc ∑ᶠ k, after k
      = ∑ᶠ k, (before k + (if k = key then after key - before key else 0)) :=
        congrArg finsum split
    _ = ∑ᶠ k, before k + (after key - before key) := by
        rw [finsum_add_distrib finite spike, spikeSum]

/-- Shares in proportion to weights, each rounded down, add up to no more than the whole. -/
theorem finsum_shares_le {share weight : Key → Int} {whole : Int}
    (shares : share.HasFiniteSupport) (weights : weight.HasFiniteSupport)
    (positive : 0 < ∑ᶠ key, weight key)
    (each : ∀ key, (∑ᶠ other, weight other) * share key ≤ whole * weight key) :
    ∑ᶠ key, share key ≤ whole := by
  have le : ∑ᶠ key, (∑ᶠ other, weight other) * share key ≤ ∑ᶠ key, whole * weight key :=
    finsum_le_finsum' (by fun_prop) (by fun_prop) each
  rw [← mul_finsum, ← mul_finsum, mul_comm whole] at le
  exact le_of_mul_le_mul_left le positive

end FiniteSums

/-! ### Counting fresh keys -/

section FreshKeys

variable {Key : Type} [DecidableEq Key]

/-- Writing as many keys as there are indices adds as many keys exactly when no key is present
yet and no two indices share one. -/
theorem ncard_fresh_keys (present : Key → Prop) [DecidablePred present] (key : Nat → Key)
    (count : Nat) :
    {k | ¬present k ∧ ∃ index ∈ List.range count, key index = k}.ncard = count ↔
      (∀ index ∈ List.range count, ¬present (key index)) ∧
        Set.InjOn key (Finset.range count : Set Nat) := by
  have asFinset : {k | ¬present k ∧ ∃ index ∈ List.range count, key index = k} =
      (((Finset.range count).image key).filter (¬present ·) : Set Key) := by
    ext k
    simp [and_comm]
  have imageLe : ((Finset.range count).image key).card ≤ count :=
    Finset.card_image_le.trans_eq (Finset.card_range count)
  have filterLe := Finset.card_filter_le ((Finset.range count).image key) (¬present ·)
  rw [asFinset, Set.ncard_coe_finset]
  constructor
  · intro equal
    have imageEq : ((Finset.range count).image key).card = count := by omega
    refine ⟨fun index member => ?_, ?_⟩
    · refine Finset.card_filter_eq_iff.mp (equal.trans imageEq.symm) (key index) ?_
      exact Finset.mem_image_of_mem key (by simpa using member)
    · exact Finset.card_image_iff.mp (imageEq.trans (Finset.card_range count).symm)
  · rintro ⟨absent, injective⟩
    have all : ((Finset.range count).image key).filter (¬present ·) =
        (Finset.range count).image key := by
      refine Finset.filter_eq_self.mpr fun k member => ?_
      obtain ⟨index, inRange, rfl⟩ := Finset.mem_image.mp member
      exact absent index (by simpa using inRange)
    rw [all, Finset.card_image_iff.mpr injective, Finset.card_range]

end FreshKeys

/-! ### Stores -/

/-- Persistent storage under one kind of key. Only finitely many keys are ever bound. -/
structure Store (Key Value : Type) where
  get : Key → Option Value
  finite : {key | get key ≠ none}.Finite

namespace Store

variable {Key Value : Type}

@[ext]
theorem ext {first second : Store Key Value} (same : ∀ key, first.get key = second.get key) :
    first = second := by
  obtain ⟨firstGet, firstFinite⟩ := first
  obtain ⟨secondGet, secondFinite⟩ := second
  have equal : firstGet = secondGet := funext same
  subst equal
  rfl

/-- The store that binds nothing. -/
def empty : Store Key Value where
  get _ := none
  finite := by simp

@[simp]
theorem get_empty (key : Key) : (empty : Store Key Value).get key = none := rfl

/-- Every value is read in the same way. -/
def map {Result : Type} (store : Store Key Value) (reading : Value → Result) :
    Store Key Result where
  get key := (store.get key).map reading
  finite := store.finite.subset fun key member unbound => member (by rw [unbound, Option.map_none])

theorem get_map {Result : Type} (store : Store Key Value) (reading : Value → Result) (key : Key) :
    (store.map reading).get key = (store.get key).map reading := rfl

section Update

variable [DecidableEq Key]

/-- Bind one key. -/
def set (store : Store Key Value) (key : Key) (value : Value) : Store Key Value where
  get other := if other = key then some value else store.get other
  finite := by
    refine (store.finite.insert key).subset fun other member => ?_
    by_cases equal : other = key
    · exact Or.inl equal
    · refine Or.inr fun unbound => member ?_
      rw [if_neg equal, unbound]

/-- Unbind one key. -/
def remove (store : Store Key Value) (key : Key) : Store Key Value where
  get other := if other = key then none else store.get other
  finite := by
    refine store.finite.subset fun other member unbound => member ?_
    by_cases equal : other = key
    · rw [if_pos equal]
    · rw [if_neg equal, unbound]

variable (store : Store Key Value) {key : Key} {value : Value}

theorem get_set {other : Key} :
    (store.set key value).get other = if other = key then some value else store.get other := rfl

@[simp]
theorem get_set_self (key : Key) (value : Value) : (store.set key value).get key = some value := by
  rw [get_set, if_pos rfl]

variable {store} in
/-- What is said of every binding and of a new one is said of every binding after the new one was
made. -/
theorem forall_set {property : Key → Value → Prop}
    (before : ∀ key value, store.get key = some value → property key value)
    (new : property key value) (other : Key) (content : Value)
    (found : (store.set key value).get other = some content) : property other content := by
  rw [get_set] at found
  split at found
  · rename_i same
    cases found
    exact same ▸ new
  · exact before other content found

theorem get_remove {other : Key} :
    (store.remove key).get other = if other = key then none else store.get other := rfl

/-- The keys of the list are looked up in another store. -/
def redirect (store : Store Key Value) (keys : List Key) (other : Store Key Value) :
    Store Key Value where
  get key := if key ∈ keys then other.get key else store.get key
  finite := by
    refine (other.finite.union store.finite).subset fun key member => ?_
    by_cases listed : key ∈ keys
    · exact .inl fun unbound => member (by rw [if_pos listed, unbound])
    · exact .inr fun unbound => member (by rw [if_neg listed, unbound])

variable {keys : List Key}

theorem get_redirect_of_notMem {store other : Store Key Value} (unlisted : key ∉ keys) :
    (store.redirect keys other).get key = store.get key :=
  if_neg unlisted

/-- A store that differs from another one at listed keys only is a redirection of it. -/
theorem redirect_eq_of_agree {store other : Store Key Value}
    (agree : ∀ key, key ∉ keys → other.get key = store.get key) :
    store.redirect keys other = other := by
  ext1 key
  by_cases listed : key ∈ keys
  · exact if_pos listed
  · rw [get_redirect_of_notMem listed, agree key listed]

end Update

/-! ### Counting values of a kind -/

section Tally

variable (store : Store Key Value) (kind : Value → Bool)

/-- The number of keys that are bound to a value of the kind. -/
noncomputable def tally : Nat :=
  {key | (store.get key).any kind = true}.ncard

theorem tally_finite : {key | (store.get key).any kind = true}.Finite := by
  refine store.finite.subset fun key (member : (store.get key).any kind = true) unbound => ?_
  rw [unbound] at member
  cases member

/-- A store that differs from another one at a single key has the same tally up to the change
at that key. -/
theorem tally_change (next : Store Key Value) (key : Key)
    (same : ∀ other, other ≠ key → next.get other = store.get other) :
    next.tally kind + ((store.get key).any kind).toNat =
      store.tally kind + ((next.get key).any kind).toNat := by
  have others : {other | (next.get other).any kind = true} \ {key} =
      {other | (store.get other).any kind = true} \ {key} := by
    ext other
    refine and_congr_left fun different => ?_
    show (next.get other).any kind = true ↔ (store.get other).any kind = true
    rw [same other different]
  have split (store : Store Key Value) :
      ({other | (store.get other).any kind = true} \ {key}).ncard +
        ((store.get key).any kind).toNat = store.tally kind := by
    by_cases counted : (store.get key).any kind = true
    · rw [counted]
      exact Set.ncard_sdiff_singleton_add_one counted (store.tally_finite kind)
    · rw [Bool.eq_false_of_not_eq_true counted]
      exact congrArg Set.ncard (Set.sdiff_singleton_eq_self counted)
  rw [← split next, ← split store, others]
  omega

theorem tally_set [DecidableEq Key] (key : Key) (value : Value) :
    (store.set key value).tally kind + ((store.get key).any kind).toNat =
      store.tally kind + (kind value).toNat := by
  have change := store.tally_change kind (store.set key value) key fun _ different =>
    if_neg different
  rwa [get_set_self] at change

theorem tally_remove [DecidableEq Key] (key : Key) :
    (store.remove key).tally kind + ((store.get key).any kind).toNat = store.tally kind := by
  have change := store.tally_change kind (store.remove key) key fun _ different =>
    if_neg different
  rwa [get_remove, if_pos rfl] at change

theorem tally_empty : (empty : Store Key Value).tally kind = 0 := by
  simp [tally]

end Tally

/-- A reading of a store that is zero at unbound keys has finite support. -/
theorem hasFiniteSupport (store : Store Key Value) (reading : Key → Option Value → Int)
    (zero : ∀ key, reading key none = 0) :
    (fun key => reading key (store.get key)).HasFiniteSupport := by
  refine store.finite.subset fun key member unbound => member ?_
  show reading key (store.get key) = 0
  rw [unbound, zero]

/-! ### Sums of a reading -/

section Readings

variable [DecidableEq Key] (store : Store Key Value) {reading : Option Value → Int}
  (zero : reading none = 0) (key : Key)

include zero

theorem finsum_set (value : Value) :
    ∑ᶠ other, reading ((store.set key value).get other) =
      ∑ᶠ other, reading (store.get other) + (reading (some value) - reading (store.get key)) := by
  rw [finsum_change (fun other => reading (store.get other)) _ key
    (store.hasFiniteSupport (fun _ => reading) fun _ => zero), get_set_self]
  intro other different
  show reading ((store.set key value).get other) = _
  rw [get_set, if_neg different]

theorem finsum_remove :
    ∑ᶠ other, reading ((store.remove key).get other) =
      ∑ᶠ other, reading (store.get other) - reading (store.get key) := by
  rw [finsum_change (fun other => reading (store.get other)) _ key
    (store.hasFiniteSupport (fun _ => reading) fun _ => zero), get_remove, if_pos rfl, zero,
    zero_sub, sub_eq_add_neg]
  intro other different
  show reading ((store.remove key).get other) = _
  rw [get_remove, if_neg different]

end Readings

end Store

end Agora

/-
This file is a small library of noninterference: a transaction that does not depend on
a part of the state does the same after a change of that part.

`Tracks` relates two transactions, because what a transaction does after reading the
state is another one on the changed state. The rules are instances that follow the
program text, so that a transaction written in do-notation is seen to be blind by
instance search, once the steps it is made of are.
-/

import Agora.Lib.Transaction

namespace Agora

variable {State Fault Value Result Item : Type}

/-- After the change of the state, `changed` does what `original` does before it: it fails with
the same fault, or it returns the same value and the change of the same state. -/
class Tracks (change : State → State) (changed original : Transaction State Fault Value) :
    Prop where
  run_change : ∀ state, changed.run (change state) =
    (original.run state).map fun outcome => (outcome.1, change outcome.2)

/-- The transaction neither reads nor writes what the change of the state changes. -/
abbrev Blind (change : State → State) (transaction : Transaction State Fault Value) : Prop :=
  Tracks change transaction transaction

section Rules

variable {change : State → State}

instance blind_pure (value : Value) :
    Blind change (pure value : Transaction State Fault Value) := ⟨fun _ => rfl⟩

instance blind_throw (fault : Fault) :
    Blind change (throw fault : Transaction State Fault Value) := ⟨fun _ => rfl⟩

instance blind_require (condition : Prop) [Decidable condition] (fault : Fault) :
    Blind change (require condition fault : Transaction State Fault Unit) := by
  unfold require
  split
  · exact blind_pure ()
  · exact blind_throw fault

instance blind_orFault (value : Option Value) (fault : Fault) :
    Blind change (orFault value fault : Transaction State Fault Value) := by
  cases value with
  | none => exact blind_throw fault
  | some result => exact blind_pure result

theorem Tracks.bind {first first' : Transaction State Fault Result}
    {second second' : Result → Transaction State Fault Value} (head : Tracks change first' first)
    (tail : ∀ result, Tracks change (second' result) (second result)) :
    Tracks change (first' >>= second') (first >>= second) where
  run_change state := by
    rw [StateT.run_bind, StateT.run_bind, head.run_change state]
    cases first.run state with
    | error fault => rfl
    | ok outcome => exact (tail outcome.1).run_change outcome.2

/-- What is read is the changed state on one side and the state on the other. -/
theorem Tracks.get_bind {next next' : State → Transaction State Fault Value}
    (tail : ∀ state, Tracks change (next' (change state)) (next state)) :
    Tracks change (get >>= next') (get >>= next) where
  run_change state := (tail state).run_change state

-- reading the state comes first: as a step of its own it is not blind
instance (priority := low) tracks_bind {first first' : Transaction State Fault Result}
    {second second' : Result → Transaction State Fault Value} [head : Tracks change first' first]
    [tail : ∀ result, Tracks change (second' result) (second result)] :
    Tracks change (first' >>= second') (first >>= second) :=
  .bind head tail

instance tracks_get_bind {next next' : State → Transaction State Fault Value}
    [tail : ∀ state, Tracks change (next' (change state)) (next state)] :
    Tracks change (get >>= next') (get >>= next) :=
  .get_bind tail

theorem blind_modify {update : State → State}
    (commutes : ∀ state, update (change state) = change (update state)) :
    Blind change (modify update : Transaction State Fault Unit) where
  run_change state := congrArg (fun next => Except.ok ((), next)) (commutes state)

instance tracks_ite {condition : Prop} [Decidable condition]
    {first second first' second' : Transaction State Fault Value} [Tracks change first' first]
    [Tracks change second' second] :
    Tracks change (if condition then first' else second')
      (if condition then first else second) := by
  split <;> assumption

instance blind_foldlM {turn : Value → Item → Transaction State Fault Value}
    [each : ∀ value item, Blind change (turn value item)] (items : List Item) (start : Value) :
    Blind change (items.foldlM turn start) := by
  induction items generalizing start with
  | nil => exact blind_pure start
  | cons item rest inductionHypothesis =>
    rw [List.foldlM_cons]
    infer_instance

end Rules

/-! ### Attempts -/

section Attempts

variable {change : State → State} (transaction : Transaction State Fault Value)
  [blind : Blind change transaction]

/-- An attempt after the change ends in the change of the state it ends in before. -/
theorem commit_change {state : State} :
    commit transaction (change state) = change (commit transaction state) := by
  unfold commit
  rw [blind.run_change state]
  cases transaction.run state <;> rfl

theorem accepted_change (state : State) :
    accepted transaction (change state) = accepted transaction state := by
  unfold accepted
  rw [blind.run_change state]
  cases transaction.run state <;> rfl

end Attempts

end Agora

/-
This file is a small library of transactions: state-passing computations that may
fail, where a failed computation leaves no trace on the state.

A transaction is reasoned about through `Ensures`, the weakest precondition for
partial correctness: every successful outcome satisfies the postcondition. The
rules compute `Ensures` of a composite transaction from its parts, so that a
transaction written in do-notation unfolds into a chain of implications, one for
each check that has to succeed. `Succeeds` is its counterpart for total correctness,
where the same checks become a conjunction. Nothing here names a particular program.
-/

import Mathlib.Logic.Basic

namespace Agora

/-- A computation on a state that either fails or returns a value and the next state. -/
abbrev Transaction (State Fault Value : Type) := StateT State (Except Fault) Value

variable {State Fault Value Result : Type}

/-- Every successful outcome of the transaction from this state satisfies `outcome`. -/
def Ensures (transaction : Transaction State Fault Value) (state : State)
    (outcome : Value → State → Prop) : Prop :=
  ∀ value next, transaction.run state = .ok (value, next) → outcome value next

/-- The transaction succeeds from this state, with an outcome that satisfies `outcome`. -/
def Succeeds (transaction : Transaction State Fault Value) (state : State)
    (outcome : Value → State → Prop) : Prop :=
  ∃ value next, transaction.run state = .ok (value, next) ∧ outcome value next

/-- The state after an attempt: the next state on success, the unchanged state on failure. -/
def commit (transaction : Transaction State Fault Value) (state : State) : State :=
  match transaction.run state with
  | .ok (_, next) => next
  | .error _ => state

/-- Fail unless the condition holds. -/
def require (condition : Prop) [Decidable condition] (fault : Fault) :
    Transaction State Fault Unit :=
  if condition then pure () else throw fault

/-- The value of an option, or a failure. -/
def orFault (value : Option Value) (fault : Fault) : Transaction State Fault Value :=
  match value with
  | some result => pure result
  | none => throw fault

/-! ### The rules -/

section Rules

variable {state : State} {outcome : Value → State → Prop}

theorem ensures_pure (value : Value) :
    Ensures (pure value : Transaction State Fault Value) state outcome ↔ outcome value state := by
  constructor
  · intro ensures
    exact ensures value state rfl
  · intro holds _ _ run
    cases run
    exact holds

theorem ensures_throw (fault : Fault) :
    Ensures (throw fault : Transaction State Fault Value) state outcome ↔ True := by
  refine iff_of_true (fun _ _ run => ?_) trivial
  cases run

theorem ensures_bind (first : Transaction State Fault Result)
    (second : Result → Transaction State Fault Value) :
    Ensures (first >>= second) state outcome ↔
      Ensures first state fun result middle => Ensures (second result) middle outcome := by
  constructor
  · intro ensures result middle firstRun value next secondRun
    refine ensures value next ?_
    rw [StateT.run_bind, firstRun]
    exact secondRun
  · intro ensures value next run
    rw [StateT.run_bind] at run
    cases firstRun : first.run state with
    | error fault =>
      rw [firstRun] at run
      cases run
    | ok pair =>
      rw [firstRun] at run
      exact ensures pair.1 pair.2 firstRun value next run

theorem ensures_get {reading : State → State → Prop} :
    Ensures (get : Transaction State Fault State) state reading ↔ reading state state := by
  constructor
  · intro ensures
    exact ensures state state rfl
  · intro holds _ _ run
    cases run
    exact holds

theorem ensures_modify {written : Unit → State → Prop} (change : State → State) :
    Ensures (modify change : Transaction State Fault Unit) state written ↔
      written () (change state) := by
  constructor
  · intro ensures
    exact ensures () (change state) rfl
  · intro holds _ _ run
    cases run
    exact holds

theorem ensures_require {checked : Unit → State → Prop} (condition : Prop) [Decidable condition]
    (fault : Fault) :
    Ensures (require condition fault : Transaction State Fault Unit) state checked ↔
      (condition → checked () state) := by
  unfold require
  by_cases holds : condition
  · rw [if_pos holds, ensures_pure]
    exact ⟨fun result _ => result, fun result => result holds⟩
  · rw [if_neg holds, ensures_throw]
    exact ⟨fun _ absurdity => absurd absurdity holds, fun _ => trivial⟩

theorem ensures_orFault (value : Option Value) (fault : Fault) :
    Ensures (orFault value fault : Transaction State Fault Value) state outcome ↔
      ∀ result, value = some result → outcome result state := by
  cases value with
  | none =>
    show Ensures (throw fault) state outcome ↔ _
    rw [ensures_throw]
    simp
  | some result =>
    show Ensures (pure result) state outcome ↔ _
    rw [ensures_pure]
    simp

theorem ensures_ite (condition : Prop) [Decidable condition]
    (first second : Transaction State Fault Value) :
    Ensures (if condition then first else second) state outcome ↔
      (condition → Ensures first state outcome) ∧ (¬condition → Ensures second state outcome) := by
  by_cases holds : condition
  · simp [holds]
  · simp [holds]

/-- The rules as one set for rewriting. -/
theorem ensures_rules :
    (∀ {Value : Type} {state : State} {outcome : Value → State → Prop} (value : Value),
      Ensures (pure value : Transaction State Fault Value) state outcome ↔ outcome value state) ∧
    (∀ {Value Result : Type} {state : State} {outcome : Value → State → Prop}
      (first : Transaction State Fault Result) (second : Result → Transaction State Fault Value),
      Ensures (first >>= second) state outcome ↔
        Ensures first state fun result middle => Ensures (second result) middle outcome) ∧
    (∀ {state : State} {reading : State → State → Prop},
      Ensures (get : Transaction State Fault State) state reading ↔ reading state state) ∧
    (∀ {state : State} {written : Unit → State → Prop} (change : State → State),
      Ensures (modify change : Transaction State Fault Unit) state written ↔
        written () (change state)) ∧
    (∀ {state : State} {checked : Unit → State → Prop} (condition : Prop) [Decidable condition]
      (fault : Fault), Ensures (require condition fault : Transaction State Fault Unit) state
        checked ↔ (condition → checked () state)) ∧
    (∀ {Value : Type} {state : State} {outcome : Value → State → Prop} (value : Option Value)
      (fault : Fault), Ensures (orFault value fault : Transaction State Fault Value) state outcome ↔
        ∀ result, value = some result → outcome result state) ∧
    ∀ {Value : Type} {state : State} {outcome : Value → State → Prop} (condition : Prop)
      [Decidable condition] (first second : Transaction State Fault Value),
      Ensures (if condition then first else second) state outcome ↔
        (condition → Ensures first state outcome) ∧ (¬condition → Ensures second state outcome) :=
  ⟨ensures_pure, ensures_bind, ensures_get, ensures_modify, ensures_require, ensures_orFault,
    ensures_ite⟩

variable {transaction : Transaction State Fault Value}

/-- Weaken the postcondition. -/
theorem Ensures.mono {weaker : Value → State → Prop} (ensures : Ensures transaction state outcome)
    (implies : ∀ value next, outcome value next → weaker value next) :
    Ensures transaction state weaker :=
  fun value next run => implies value next (ensures value next run)

/-- Two postconditions established separately hold together. -/
theorem Ensures.and {other : Value → State → Prop} (first : Ensures transaction state outcome)
    (second : Ensures transaction state other) :
    Ensures transaction state fun value next => outcome value next ∧ other value next :=
  fun value next run => ⟨first value next run, second value next run⟩

/-- Run one transaction, then the rest, through an intermediate postcondition. -/
theorem Ensures.bind {first : Transaction State Fault Result}
    {second : Result → Transaction State Fault Value} {between : Result → State → Prop}
    (head : Ensures first state between)
    (tail : ∀ result middle, between result middle → Ensures (second result) middle outcome) :
    Ensures (first >>= second) state outcome :=
  (ensures_bind first second).mpr (head.mono tail)

end Rules

/-! ### The rules of success -/

section Success

variable {state : State} {outcome : Value → State → Prop}

/-- Every success has a property exactly when no success lacks it. -/
theorem ensures_iff_not_succeeds {transaction : Transaction State Fault Value} :
    Ensures transaction state outcome ↔
      ¬Succeeds transaction state fun value next => ¬outcome value next := by
  simp [Ensures, Succeeds]

/-- The rules as one set for rewriting, each the dual of a rule above. -/
theorem succeeds_rules :
    (∀ {Value : Type} {state : State} {outcome : Value → State → Prop} (value : Value),
      Succeeds (pure value : Transaction State Fault Value) state outcome ↔ outcome value state) ∧
    (∀ {Value Result : Type} {state : State} {outcome : Value → State → Prop}
      (first : Transaction State Fault Result) (second : Result → Transaction State Fault Value),
      Succeeds (first >>= second) state outcome ↔
        Succeeds first state fun result middle => Succeeds (second result) middle outcome) ∧
    (∀ {state : State} {reading : State → State → Prop},
      Succeeds (get : Transaction State Fault State) state reading ↔ reading state state) ∧
    (∀ {state : State} {written : Unit → State → Prop} (change : State → State),
      Succeeds (modify change : Transaction State Fault Unit) state written ↔
        written () (change state)) ∧
    (∀ {state : State} {checked : Unit → State → Prop} (condition : Prop) [Decidable condition]
      (fault : Fault), Succeeds (require condition fault : Transaction State Fault Unit) state
        checked ↔ condition ∧ checked () state) ∧
    (∀ {Value : Type} {state : State} {outcome : Value → State → Prop} (value : Option Value)
      (fault : Fault), Succeeds (orFault value fault : Transaction State Fault Value) state
        outcome ↔ ∃ result, value = some result ∧ outcome result state) ∧
    ∀ {Value : Type} {state : State} {outcome : Value → State → Prop} (condition : Prop)
      [Decidable condition] (first second : Transaction State Fault Value),
      Succeeds (if condition then first else second) state outcome ↔
        (condition ∧ Succeeds first state outcome) ∨
          (¬condition ∧ Succeeds second state outcome) := by
  have dual {Value : Type} {state : State} {outcome : Value → State → Prop}
      (transaction : Transaction State Fault Value) : Succeeds transaction state outcome ↔
        ¬Ensures transaction state fun value next => ¬outcome value next := by
    simp [ensures_iff_not_succeeds]
  simp only [dual, ensures_rules, not_not, not_forall, not_and_or, exists_prop, implies_true,
    and_self]

end Success

/-! ### Attempts -/

/-- An attempt fails and changes nothing, or succeeds with the state after it. -/
theorem commit_cases (transaction : Transaction State Fault Value) (state : State) :
    (∃ fault, transaction.run state = .error fault ∧ commit transaction state = state) ∨
      ∃ value, transaction.run state = .ok (value, commit transaction state) := by
  unfold commit
  cases run : transaction.run state with
  | error fault => exact .inl ⟨fault, rfl, rfl⟩
  | ok pair => exact .inr ⟨pair.1, rfl⟩

/-- The attempt succeeds. -/
def accepted (transaction : Transaction State Fault Value) (state : State) : Bool :=
  match transaction.run state with
  | .ok _ => true
  | .error _ => false

variable {transaction : Transaction State Fault Value} {state : State}

theorem accepted_eq_true_iff :
    accepted transaction state = true ↔ Succeeds transaction state fun _ _ => True := by
  unfold accepted Succeeds
  cases transaction.run state with
  | error fault =>
    refine iff_of_false Bool.false_ne_true ?_
    rintro ⟨_, _, run, _⟩
    cases run
  | ok pair => exact iff_of_true rfl ⟨pair.1, pair.2, rfl, trivial⟩

/-- An attempt is refused and changes nothing, or is accepted with the state after it. -/
theorem commit_cases_accepted (transaction : Transaction State Fault Value) (state : State) :
    (accepted transaction state = false ∧ commit transaction state = state) ∨
      (accepted transaction state = true ∧
        ∃ value, transaction.run state = .ok (value, commit transaction state)) := by
  obtain ⟨fault, failed, unchanged⟩ | ⟨value, run⟩ := commit_cases transaction state
  · exact .inl ⟨by rw [accepted, failed], unchanged⟩
  · exact .inr ⟨by rw [accepted, run], value, run⟩

variable {property : State → Prop}

/-- An accepted attempt establishes what every success establishes. -/
theorem commit_of_accepted (done : accepted transaction state = true)
    (ensures : Ensures transaction state fun _ next => property next) :
    property (commit transaction state) := by
  obtain ⟨refused, _⟩ | ⟨_, value, run⟩ := commit_cases_accepted transaction state
  · rw [done] at refused
    cases refused
  · exact ensures value _ run

/-- An attempt whose success is absurd is refused. -/
theorem refused_of_ensures (absurdity : Ensures transaction state fun _ _ => False) :
    accepted transaction state = false := by
  refine Bool.eq_false_iff.mpr fun done => ?_
  obtain ⟨value, next, run, _⟩ := accepted_eq_true_iff.mp done
  exact absurdity value next run

/-- A last update decides nothing. -/
theorem accepted_bind_modify (checks : Transaction State Fault Value) (update : State → State)
    (state : State) :
    accepted (checks >>= fun _ => modify update) state = accepted checks state := by
  unfold accepted
  rw [StateT.run_bind]
  cases checks.run state <;> rfl

/-- A success ends in the state after the attempt. -/
theorem run_eq_of_commit {value : Value}
    (success : (transaction.run state).toOption.map Prod.fst = some value) :
    transaction.run state = .ok (value, commit transaction state) := by
  obtain ⟨fault, failed, -⟩ | ⟨result, run⟩ := commit_cases transaction state
  · rw [failed] at success
    cases success
  · rw [run] at success
    cases success
    exact run

/-- What every success establishes and the unchanged state satisfies holds after an attempt. -/
theorem commit_of_ensures (unchanged : property state)
    (ensures : Ensures transaction state fun _ next => property next) :
    property (commit transaction state) := by
  unfold commit
  cases run : transaction.run state with
  | error _ => exact unchanged
  | ok pair => exact ensures pair.1 pair.2 run

/-- What every success leaves alone is the same after an attempt. -/
theorem commit_keeps {Reading : Type} (reading : State → Reading)
    (keeps : Ensures transaction state fun _ next => reading next = reading state) :
    reading (commit transaction state) = reading state := by
  refine commit_of_ensures ?_ keeps
  rfl

/-- A property of the unchanged state holds after an attempt exactly when every success
establishes it. -/
theorem commit_iff_ensures (unchanged : property state) :
    property (commit transaction state) ↔
      Ensures transaction state fun _ next => property next := by
  refine ⟨fun holds value next run => ?_, commit_of_ensures unchanged⟩
  rwa [commit, run] at holds

end Agora

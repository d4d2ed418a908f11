/-
This file is a small library of runs: a machine that takes one action after
another, and what holds in every state of a run.

A condition on actions is a condition on the action and on the state before it. A
run respects the condition when every one of its steps does. The induction over
runs is done once, in `respects_invariant`; everything else about a machine is a
statement about one step. What the steps of a run put out adds up to its total, and a
quantity of the state that follows the outputs follows the total. What has to be
remembered in another way is kept in a record beside the state. Two runs are compared by
what they put out, with the actions left out that one of them does not see. What is settled
by being put out is put out once.
-/

import Mathlib.Algebra.Group.Basic

namespace Agora

variable {State Action : Type}

/-- The state after a list of actions. -/
def runActions (step : State → Action → State) (state : State) (actions : List Action) : State :=
  actions.foldl step state

/-- Every step of the run meets the condition in the state it starts from. -/
def Respects (step : State → Action → State) (condition : State → Action → Prop) :
    State → List Action → Prop
  | _, [] => True
  | state, action :: rest =>
    condition state action ∧ Respects step condition (step state action) rest

instance Respects.decidable (step : State → Action → State) (condition : State → Action → Prop)
    [∀ state action, Decidable (condition state action)] :
    ∀ state actions, Decidable (Respects step condition state actions)
  | _, [] => isTrue trivial
  | state, action :: rest =>
    have := Respects.decidable step condition (step state action) rest
    inferInstanceAs (Decidable (condition state action ∧
      Respects step condition (step state action) rest))

section Runs

variable {step : State → Action → State} {condition : State → Action → Prop} {state : State}

theorem runActions_append {first second : List Action} :
    runActions step state (first ++ second) =
      runActions step (runActions step state first) second :=
  List.foldl_append

theorem respects_append {first second : List Action} :
    Respects step condition state (first ++ second) ↔
      Respects step condition state first ∧
        Respects step condition (runActions step state first) second := by
  induction first generalizing state with
  | nil => exact ⟨fun both => ⟨trivial, both⟩, fun both => both.2⟩
  | cons action rest inductionHypothesis =>
    show _ ∧ Respects step condition (step state action) (rest ++ second) ↔ _
    rw [inductionHypothesis]
    exact and_assoc.symm

variable {actions : List Action}

/-- A condition that every action of a run meets is respected. -/
theorem respects_of_forall {kind : Action → Prop} (every : ∀ action ∈ actions, kind action)
    (state : State) : Respects step (fun _ => kind) state actions := by
  induction actions generalizing state with
  | nil => trivial
  | cons action rest inductionHypothesis =>
    obtain ⟨first, others⟩ := List.forall_mem_cons.mp every
    exact ⟨first, inductionHypothesis others (step state action)⟩

/-- No condition is respected by every run. -/
theorem respects_true (state : State) (actions : List Action) :
    Respects step (fun _ _ => True) state actions :=
  respects_of_forall (fun _ _ => trivial) state

theorem Respects.and {other : State → Action → Prop}
    (respects : Respects step condition state actions) (also : Respects step other state actions) :
    Respects step (fun state action => condition state action ∧ other state action) state
      actions := by
  induction actions generalizing state with
  | nil => trivial
  | cons action rest inductionHypothesis =>
    exact ⟨⟨respects.1, also.1⟩, inductionHypothesis respects.2 also.2⟩

/-- An invariant that every step meeting the condition keeps holds after every run that
respects the condition. -/
theorem respects_invariant (invariant : State → Prop)
    (keeps : ∀ state action, condition state action → invariant state →
      invariant (step state action))
    (state : State) (actions : List Action) (respects : Respects step condition state actions)
    (start : invariant state) : invariant (runActions step state actions) := by
  induction actions generalizing state with
  | nil => exact start
  | cons action rest inductionHypothesis =>
    exact inductionHypothesis (step state action) respects.2 (keeps state action respects.1 start)

/-- An invariant that every step keeps holds after every run. -/
theorem run_invariant (invariant : State → Prop)
    (keeps : ∀ state action, invariant state → invariant (step state action))
    (state : State) (actions : List Action) (start : invariant state) :
    invariant (runActions step state actions) :=
  respects_invariant invariant (fun state action _ => keeps state action) state actions
    (respects_true state actions) start

/-- What an invariant and the condition give for each step holds of every step of a run that
respects the condition. -/
theorem Respects.of_invariant {conclusion : State → Action → Prop} (invariant : State → Prop)
    (gives : ∀ state action, condition state action → invariant state → conclusion state action)
    (keeps : ∀ state action, condition state action → invariant state →
      invariant (step state action))
    (state : State) (actions : List Action) (respects : Respects step condition state actions)
    (start : invariant state) : Respects step conclusion state actions := by
  induction actions generalizing state with
  | nil => trivial
  | cons action rest inductionHypothesis =>
    exact ⟨gives state action respects.1 start, inductionHypothesis (step state action) respects.2
      (keeps state action respects.1 start)⟩

/-! ### The steps of a run -/

/-- The run takes this action in this state. -/
def StepOf (step : State → Action → State) (start : State) (actions : List Action)
    (state : State) (action : Action) : Prop :=
  ∃ earlier later, actions = earlier ++ action :: later ∧ state = runActions step start earlier

variable {start : State} {action : Action}

/-- Every step of a run that respects the condition meets it. -/
theorem Respects.stepOf (respects : Respects step condition start actions)
    (taken : StepOf step start actions state action) : condition state action := by
  obtain ⟨earlier, later, rfl, rfl⟩ := taken
  exact (respects_append.mp respects).2.1

theorem stepOf_cons {first : Action} {rest : List Action} :
    StepOf step start (first :: rest) state action ↔
      (state = start ∧ action = first) ∨ StepOf step (step start first) rest state action := by
  constructor
  · rintro ⟨earlier, later, taken, rfl⟩
    cases earlier with
    | nil =>
      cases taken
      exact .inl ⟨rfl, rfl⟩
    | cons head tail =>
      cases taken
      exact .inr ⟨tail, later, rfl, rfl⟩
  · rintro (⟨rfl, rfl⟩ | ⟨earlier, later, rfl, rfl⟩)
    · exact ⟨[], rest, rfl, rfl⟩
    · exact ⟨first :: earlier, later, rfl, rfl⟩

/-- A fact that only certain steps establish, and no step takes back, holds after a run exactly
when it held before or the run takes such a step. -/
theorem holds_iff_stepOf (fact : State → Prop) (establishes : State → Action → Prop)
    (turns : ∀ state action, fact (step state action) ↔ fact state ∨ establishes state action)
    (start : State) (actions : List Action) :
    fact (runActions step start actions) ↔
      fact start ∨ ∃ state action, StepOf step start actions state action ∧
        establishes state action := by
  induction actions generalizing start with
  | nil =>
    refine ⟨.inl, fun either => either.resolve_right ?_⟩
    rintro ⟨_, _, ⟨earlier, later, taken, _⟩, _⟩
    simp at taken
  | cons first rest inductionHypothesis =>
    refine (inductionHypothesis (step start first)).trans ?_
    simp [turns, stepOf_cons, or_and_right, exists_or, or_assoc, and_assoc]

/-- What is false at the start of a run and true at its end becomes true in one of its steps. -/
theorem exists_stepOf_becomes (fact : State → Prop) (before : ¬fact start)
    (after : fact (runActions step start actions)) :
    ∃ state action, StepOf step start actions state action ∧ ¬fact state ∧
      fact (step state action) := by
  induction actions generalizing start with
  | nil => exact absurd after before
  | cons action rest inductionHypothesis =>
    by_cases now : fact (step start action)
    · exact ⟨start, action, ⟨[], rest, rfl, rfl⟩, before, now⟩
    · obtain ⟨state, next, ⟨earlier, later, restEq, stateEq⟩, becomes⟩ :=
        inductionHypothesis now after
      exact ⟨state, next, ⟨action :: earlier, later, by rw [restEq]; rfl, stateEq⟩, becomes⟩

/-! ### Records -/

section Records

variable {Record : Type}

/-- What a run makes of a record that is kept beside the state. -/
def runFold (step : State → Action → State) (update : State → Action → Record → Record) :
    State → List Action → Record → Record
  | _, [], record => record
  | state, action :: rest, record =>
    runFold step update (step state action) rest (update state action record)

variable {update : State → Action → Record → Record}

/-- What every step that meets the condition keeps of the state and the record holds after every
run that respects it. -/
theorem respects_runFold (invariant : State → Record → Prop)
    (keeps : ∀ state action record, condition state action → invariant state record →
      invariant (step state action) (update state action record)) (state : State)
    (actions : List Action) (record : Record) (respects : Respects step condition state actions)
    (start : invariant state record) :
    invariant (runActions step state actions) (runFold step update state actions record) := by
  induction actions generalizing state record with
  | nil => exact start
  | cons action rest inductionHypothesis =>
    exact inductionHypothesis (step state action) _ respects.2
      (keeps state action record respects.1 start)

/-- What every step keeps of the state and the record holds after every run. -/
theorem runFold_invariant (invariant : State → Record → Prop)
    (keeps : ∀ state action record, invariant state record →
      invariant (step state action) (update state action record))
    {actions : List Action} {record : Record} (start : invariant state record) :
    invariant (runActions step state actions) (runFold step update state actions record) :=
  respects_runFold invariant (fun state action record _ => keeps state action record) state actions
    record (respects_true state actions) start

theorem runFold_append (update : State → Action → Record → Record) (state : State)
    (first second : List Action) (record : Record) :
    runFold step update state (first ++ second) record =
      runFold step update (runActions step state first) second
        (runFold step update state first record) := by
  induction first generalizing state record with
  | nil => rfl
  | cons action rest inductionHypothesis => exact inductionHypothesis (step state action) _

end Records

/-! ### Outputs -/

section Outputs

variable {Output : Type}

/-- What the steps of a run put out, one after another. -/
def runOutputs (step : State → Action → State) (output : State → Action → Option Output) :
    State → List Action → List Output
  | _, [] => []
  | state, action :: rest =>
    (output state action).toList ++ runOutputs step output (step state action) rest

/-- Hidden actions that put nothing out and leave the state alike, to steps that depend on what
is alike only, can be left out of a run: it puts out the same. -/
theorem runOutputs_filter {output : State → Action → Option Output} (kind : Action → Prop)
    (visible : Action → Bool) (alike : State → State → Prop)
    (seen : ∀ state other action, kind action → visible action = true → alike state other →
      alike (step state action) (step other action) ∧ output other action = output state action)
    (hidden : ∀ state other action, kind action → visible action = false → alike state other →
      alike state (step other action) ∧ output other action = none)
    {actions : List Action} (every : ∀ action ∈ actions, kind action) {other : State}
    (start : alike state other) :
    runOutputs step output other actions =
      runOutputs step output state (actions.filter visible) := by
  induction actions generalizing state other with
  | nil => rfl
  | cons action rest inductionHypothesis =>
    obtain ⟨first, others⟩ := List.forall_mem_cons.mp every
    cases sight : visible action with
    | true =>
      obtain ⟨next, same⟩ := seen state other action first sight start
      rw [List.filter_cons_of_pos sight, runOutputs, runOutputs, same,
        inductionHypothesis others next]
    | false =>
      obtain ⟨next, silent⟩ := hidden state other action first sight start
      rw [List.filter_cons_of_neg (Bool.eq_false_iff.mp sight), runOutputs, silent,
        inductionHypothesis others next]
      rfl

section Once

variable {output : State → Action → Option Output} (invariant : State → Prop)
  (settled : State → Output → Prop)
  (keeps : ∀ state action, invariant state → invariant (step state action))
  (stays : ∀ state action value, invariant state → settled state value →
    settled (step state action) value)
  (ends : ∀ state action value, invariant state → output state action = some value →
    ¬settled state value ∧ settled (step state action) value)

include keeps stays ends

/-- What is settled at the start of a run, and stays settled, is not put out. -/
theorem notMem_runOutputs (start : invariant state) {value : Output}
    (isSettled : settled state value) {actions : List Action} :
    value ∉ runOutputs step output state actions := by
  induction actions generalizing state with
  | nil => exact List.not_mem_nil
  | cons action rest inductionHypothesis =>
    rw [runOutputs, List.mem_append, not_or]
    refine ⟨fun member => ?_, ?_⟩
    · exact (ends state action value start (Option.mem_toList.mp member)).1 isSettled
    · exact inductionHypothesis (keeps state action start)
        (stays state action value start isSettled)

/-- What is settled once it was put out, and stays settled, is put out once. -/
theorem runOutputs_nodup (start : invariant state) {actions : List Action} :
    (runOutputs step output state actions).Nodup := by
  induction actions generalizing state with
  | nil => exact List.nodup_nil
  | cons action rest inductionHypothesis =>
    have others := inductionHypothesis (keeps state action start)
    rw [runOutputs]
    cases put : output state action with
    | none => exact others
    | some value =>
      have isSettled := (ends state action value start put).2
      exact List.nodup_cons.mpr ⟨notMem_runOutputs invariant settled keeps stays ends
        (keeps state action start) isSettled, others⟩

end Once

end Outputs

/-! ### Totals -/

variable {Value : Type} [AddMonoid Value]

/-- The sum of what the steps of a run put out. -/
def runTotal (step : State → Action → State) (output : State → Action → Value) :
    State → List Action → Value
  | _, [] => 0
  | state, action :: rest => output state action + runTotal step output (step state action) rest

/-- An invariant of the state and of what was put out so far, kept by every step that meets the
condition, holds after every run that respects it. -/
theorem runTotal_invariant (invariant : State → Value → Prop) (output : State → Action → Value)
    (keeps : ∀ state total action, condition state action → invariant state total →
      invariant (step state action) (total + output state action))
    (state : State) (total : Value) (actions : List Action)
    (respects : Respects step condition state actions) (start : invariant state total) :
    invariant (runActions step state actions) (total + runTotal step output state actions) := by
  induction actions generalizing state total with
  | nil =>
    rw [runTotal, add_zero]
    exact start
  | cons action rest inductionHypothesis =>
    rw [runTotal, ← add_assoc]
    exact inductionHypothesis (step state action) _ respects.2 (keeps state total action respects.1
      start)

/-- A quantity that each step changes by what it puts out changes by the total. -/
theorem quantity_add_runTotal (invariant : State → Prop) (quantity : State → Value)
    (output : State → Action → Value)
    (keeps : ∀ state action, condition state action → invariant state →
      invariant (step state action))
    (follows : ∀ state action, condition state action → invariant state →
      quantity (step state action) = quantity state + output state action)
    (state : State) (actions : List Action) (respects : Respects step condition state actions)
    (start : invariant state) :
    quantity (runActions step state actions) =
      quantity state + runTotal step output state actions := by
  have both := runTotal_invariant
    (fun next total => invariant next ∧ quantity next = quantity state + total) output
    (fun next total action meets held => ⟨keeps next action meets held.1, by
      rw [follows next action meets held.1, held.2, add_assoc]⟩)
    state 0 actions respects ⟨start, (add_zero _).symm⟩
  rw [both.2, zero_add]

/-- The total of a difference is the difference of the totals. -/
theorem runTotal_sub {Value : Type} [AddCommGroup Value] (first second : State → Action → Value)
    (state : State) (actions : List Action) :
    runTotal step (fun state action => first state action - second state action) state actions =
      runTotal step first state actions - runTotal step second state actions := by
  induction actions generalizing state with
  | nil => exact (sub_zero _).symm
  | cons action rest inductionHypothesis =>
    simp only [runTotal]
    rw [inductionHypothesis, add_sub_add_comm]

end Runs

end Agora

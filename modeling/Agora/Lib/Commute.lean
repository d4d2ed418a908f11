/-
This file is a small library of operations that are performed in one order and compared with
another: a list of operations on a state, and what it makes of the state when some of them
commute.

An operation that is performed late can be moved to its place in the list when it commutes
with everything after that place, and an operation that is performed again there changes
nothing when it is idempotent.
-/

import Mathlib.Logic.Function.Conjugate

namespace Agora

variable {Operation State : Type} (act : Operation → State → State)

/-- The operations are performed one after another. -/
def performAll (operations : List Operation) (state : State) : State :=
  operations.foldl (fun state operation => act operation state) state

variable {act}

@[simp]
theorem performAll_cons (operation : Operation) (rest : List Operation) (state : State) :
    performAll act (operation :: rest) state = performAll act rest (act operation state) := rfl

theorem performAll_append (first second : List Operation) (state : State) :
    performAll act (first ++ second) state = performAll act second (performAll act first state) :=
  List.foldl_append

variable {operation : Operation} {operations : List Operation}

/-- An operation that commutes with all of a list can be performed before it or after it. -/
theorem act_performAll
    (commutes : ∀ other ∈ operations, Function.Commute (act operation) (act other))
    (state : State) :
    act operation (performAll act operations state) =
      performAll act operations (act operation state) := by
  induction operations generalizing state with
  | nil => rfl
  | cons first rest inductionHypothesis =>
    obtain ⟨head, tail⟩ := List.forall_mem_cons.mp commutes
    rw [performAll_cons, inductionHypothesis tail, performAll_cons, head state]

/-- Operations that do nothing can be left out. -/
theorem performAll_filter {kept : Operation → Bool}
    (idle : ∀ operation ∈ operations, kept operation = false →
      ∀ state, act operation state = state) {state : State} :
    performAll act (operations.filter kept) state = performAll act operations state := by
  induction operations generalizing state with
  | nil => rfl
  | cons first rest inductionHypothesis =>
    obtain ⟨head, tail⟩ := List.forall_mem_cons.mp idle
    cases keep : kept first with
    | true =>
      rw [List.filter_cons_of_pos keep, performAll_cons, performAll_cons, inductionHypothesis tail]
    | false =>
      rw [List.filter_cons_of_neg (Bool.eq_false_iff.mp keep), performAll_cons, head keep,
        inductionHypothesis tail]

/-- Of a list only some operations have been performed, in the order of the list. One more of
the list, or one of them again, leaves it so when it commutes with the later ones performed. -/
theorem act_performAll_filter [DecidableEq Operation] {before after done : List Operation}
    (once : (before ++ operation :: after).Nodup)
    (idempotent : ∀ state, act operation (act operation state) = act operation state)
    (commutes : ∀ other ∈ after, other ∈ done → Function.Commute (act operation) (act other))
    (state : State) :
    act operation (performAll act ((before ++ operation :: after).filter (· ∈ done)) state) =
      performAll act ((before ++ operation :: after).filter (· ∈ operation :: done)) state := by
  have apart : operation ∉ before ∧ operation ∉ after := by
    obtain ⟨-, unequal, disjoint⟩ := List.nodup_append.mp once
    exact ⟨fun member => disjoint operation member operation List.mem_cons_self rfl,
      (List.nodup_cons.mp unequal).1⟩
  have same {part : List Operation} (absent : operation ∉ part) :
      part.filter (· ∈ operation :: done) = part.filter (· ∈ done) := by
    refine List.filter_congr fun other member => ?_
    have different : other ≠ operation := fun equal => absent (equal ▸ member)
    simp [different]
  have moved (start : State) : act operation (performAll act (after.filter (· ∈ done)) start) =
      performAll act (after.filter (· ∈ done)) (act operation start) := by
    refine act_performAll (fun other member => ?_) start
    obtain ⟨later, performed⟩ := List.mem_filter.mp member
    exact commutes other later (of_decide_eq_true performed)
  have placed : (operation :: after).filter (· ∈ operation :: done) =
      operation :: after.filter (· ∈ done) := by
    rw [List.filter_cons_of_pos (by simp), same apart.2]
  rw [List.filter_append, List.filter_append, same apart.1, performAll_append, performAll_append,
    placed, performAll_cons]
  by_cases again : operation ∈ done
  · rw [List.filter_cons_of_pos (by simpa using again), performAll_cons, moved, idempotent]
  · rw [List.filter_cons_of_neg (by simpa using again), moved]

end Agora

/-
This file models the chain as the indexer sees it: the contract events in their order, and
the head.

The ids of events increase along the chain and their ledgers do not decrease, so what comes
after a cursor, or from a ledger on, is always an end of the chain. A position that lies
within the chain stays where it is when the chain grows: the new events come after it.
-/

import Agora.Indexer.Database

namespace Agora.Indexer

/-- The order of events along the chain. -/
def Event.Precedes (earlier later : Event) : Prop :=
  earlier.id < later.id ∧ earlier.ledger ≤ later.ledger

instance : DecidableRel Event.Precedes := fun _ _ =>
  inferInstanceAs (Decidable (_ ∧ _))

instance : Trans Event.Precedes Event.Precedes Event.Precedes where
  trans first second := ⟨first.1.trans second.1, first.2.trans second.2⟩

/-- The events of the contracts in the order of the chain, and the ledger of its head. -/
structure Chain where
  events : List Event
  head : Nat
  ordered : events.Pairwise Event.Precedes
  bounded : ∀ event ∈ events, 0 < event.ledger ∧ event.ledger ≤ head

/-- The event comes after the cursor, or is not below the start ledger. -/
def Position.admits (position : Position) (event : Event) : Bool :=
  match position.cursor, position.startLedger with
  | some cursor, _ => decide (cursor < event.id)
  | none, some start => decide (start ≤ event.ledger)
  | none, none => true

/-- What meets a condition that passes on to everything later is an end of the list. -/
theorem filter_suffix {Item : Type} {relation : Item → Item → Prop} {items : List Item}
    (ordered : items.Pairwise relation) {kept : Item → Bool}
    (passes : ∀ earlier later, relation earlier later → kept earlier = true → kept later = true) :
    items.filter kept <:+ items := by
  induction items with
  | nil => exact List.suffix_refl _
  | cons first rest inductionHypothesis =>
    obtain ⟨before, others⟩ := List.pairwise_cons.mp ordered
    cases keep : kept first with
    | true =>
      have all : ∀ item ∈ first :: rest, kept item = true := List.forall_mem_cons.mpr
        ⟨keep, fun item member => passes first item (before item member) keep⟩
      exact ⟨[], List.filter_eq_self.mpr all⟩
    | false =>
      rw [List.filter_cons_of_neg (Bool.eq_false_iff.mp keep)]
      exact (inductionHypothesis others).trans (List.suffix_cons first rest)

namespace Chain

/-- What a node returns for a position, in pages. -/
def after (chain : Chain) (position : Position) : List Event :=
  chain.events.filter position.admits

variable {chain : Chain} {position : Position} {event : Event}

theorem ids_nodup (chain : Chain) : (chain.events.map Event.id).Nodup := by
  refine List.pairwise_map.mpr (chain.ordered.imp fun before same => ?_)
  exact absurd same before.1.ne

theorem mem_after :
    event ∈ chain.after position ↔ event ∈ chain.events ∧ position.admits event = true :=
  List.mem_filter

theorem after_suffix (chain : Chain) {position : Position} :
    chain.after position <:+ chain.events := by
  refine filter_suffix chain.ordered fun earlier later before admitted => ?_
  obtain ⟨_ | cursor, _ | start⟩ := position
  · rfl
  · exact decide_eq_true (le_trans (of_decide_eq_true admitted) before.2)
  · exact decide_eq_true (lt_trans (of_decide_eq_true admitted) before.1)
  · exact decide_eq_true (lt_trans (of_decide_eq_true admitted) before.1)

/-- After the last event of a page comes what the page has left over. -/
theorem after_last {page rest : List Event} {last : Event}
    (parts : chain.after position = page ++ rest) (ends : page.getLast? = some last) :
    chain.after ⟨some last.id, none⟩ = rest := by
  obtain ⟨before, whole⟩ := chain.after_suffix
  obtain ⟨earlier, rfl⟩ := List.getLast?_eq_some_iff.mp ends
  rw [parts, ← List.append_assoc, ← List.append_assoc] at whole
  have ordered := chain.ordered
  rw [← whole, List.pairwise_append, List.pairwise_append] at ordered
  obtain ⟨⟨-, -, early⟩, -, late⟩ := ordered
  have skipped : (before ++ earlier ++ [last]).filter
      (Position.admits ⟨some last.id, none⟩) = [] := by
    refine List.filter_eq_nil_iff.mpr fun event member admitted => ?_
    have later : last.id < event.id := of_decide_eq_true admitted
    rcases List.mem_append.mp member with inside | own
    · exact later.not_gt (early event inside last List.mem_cons_self).1
    · rw [List.mem_singleton.mp own] at later
      exact lt_irrefl _ later
  have kept : rest.filter (Position.admits ⟨some last.id, none⟩) = rest := by
    refine List.filter_eq_self.mpr fun event member => ?_
    exact decide_eq_true (late last (List.mem_append_right _ List.mem_cons_self) event member).1
  rw [after, ← whole, List.filter_append, skipped, kept, List.nil_append]

/-! ### Growth -/

/-- The chain has grown by events in ledgers that were not closed before. -/
structure Extends (next chain : Chain) : Prop where
  opening : chain.events <+: next.events
  head_le : chain.head ≤ next.head
  fresh : ∀ event ∈ next.events.drop chain.events.length, chain.head < event.ledger

instance (next chain : Chain) : Decidable (next.Extends chain) :=
  decidable_of_iff
    (chain.events <+: next.events ∧ chain.head ≤ next.head ∧
      ∀ event ∈ next.events.drop chain.events.length, chain.head < event.ledger)
    ⟨fun ⟨opening, head_le, fresh⟩ => ⟨opening, head_le, fresh⟩,
      fun grown => ⟨grown.opening, grown.head_le, grown.fresh⟩⟩

section Growth

variable {next : Chain} (grown : next.Extends chain)

include grown

/-- An event of the grown chain is one of before, or in a ledger that was not closed. -/
theorem Extends.old_or_fresh (member : event ∈ next.events) :
    event ∈ chain.events ∨ chain.head < event.ledger := by
  obtain ⟨new, whole⟩ := grown.opening
  rw [← whole, List.mem_append] at member
  refine member.imp_right fun isNew => grown.fresh event ?_
  rw [← whole, List.drop_left]
  exact isNew

theorem Extends.mem (member : event ∈ chain.events) : event ∈ next.events :=
  grown.opening.subset member

theorem Extends.mem_after (member : event ∈ chain.after position) :
    event ∈ next.after position :=
  Chain.mem_after.mpr ((Chain.mem_after.mp member).imp_left grown.mem)

/-- After a cursor within the chain comes what came before it grew, and what is new. -/
theorem Extends.after_cursor {cursor : String}
    (reached : ∃ event ∈ chain.events, event.id = cursor) :
    ∃ new, next.events = chain.events ++ new ∧
      next.after ⟨some cursor, none⟩ = chain.after ⟨some cursor, none⟩ ++ new := by
  obtain ⟨new, whole⟩ := grown.opening
  obtain ⟨last, member, rfl⟩ := reached
  refine ⟨new, whole.symm, ?_⟩
  have ordered := next.ordered
  rw [← whole, List.pairwise_append] at ordered
  have kept : new.filter (Position.admits ⟨some last.id, none⟩) = new := by
    refine List.filter_eq_self.mpr fun event isNew => ?_
    exact decide_eq_true (ordered.2.2 last member event isNew).1
  rw [after, ← whole, List.filter_append, kept]
  rfl

end Growth

/-- The position is within the chain: everything from the configured start on that the chain
will bring comes after it. -/
def Reaches (chain : Chain) (config : Config) (position : Position) : Prop :=
  match position.cursor, position.startLedger with
  | some cursor, _ => ∃ event ∈ chain.events, event.id = cursor
  | none, some start => start ≤ chain.head + 1 ∨ start ≤ config.startLedger
  | none, none => True

variable {config : Config} {next : Chain}

theorem Reaches.extends (reaches : chain.Reaches config position) (grown : next.Extends chain) :
    next.Reaches config position := by
  have head := grown.head_le
  have kept {cursor : String} : (∃ event ∈ chain.events, event.id = cursor) →
      ∃ event ∈ next.events, event.id = cursor :=
    fun ⟨event, member, same⟩ => ⟨event, grown.mem member, same⟩
  obtain ⟨_ | cursor, _ | start⟩ := position
  · trivial
  · exact reaches.imp_left fun le => le.trans (Nat.add_le_add_right head 1)
  · exact kept reaches
  · exact kept reaches

/-- What is new comes after a position within the chain. -/
theorem Reaches.admits_fresh (reaches : chain.Reaches config position) (grown : next.Extends chain)
    (member : event ∈ next.events) (fresh : event ∉ chain.events)
    (wanted : config.startLedger ≤ event.ledger) : position.admits event = true := by
  have late := (grown.old_or_fresh member).resolve_left fresh
  have beyond {cursor : String} (reached : ∃ last ∈ chain.events, last.id = cursor) :
      cursor < event.id := by
    obtain ⟨new, whole⟩ := grown.opening
    obtain ⟨last, inside, rfl⟩ := reached
    have ordered := next.ordered
    rw [← whole, List.pairwise_append] at ordered
    have isNew : event ∈ new := (List.mem_append.mp (whole ▸ member)).resolve_left fresh
    exact (ordered.2.2 last inside event isNew).1
  obtain ⟨_ | cursor, _ | start⟩ := position
  · rfl
  · rcases reaches with low | low
    · exact decide_eq_true (low.trans late)
    · exact decide_eq_true (low.trans wanted)
  · exact decide_eq_true (beyond reaches)
  · exact decide_eq_true (beyond reaches)

end Chain

end Agora.Indexer

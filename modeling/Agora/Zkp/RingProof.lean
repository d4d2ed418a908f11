/-
This file models the ring proof of the gate: the announcements that the verifier recomputes for
each member, the check of the challenges against their hash, and the answers of the prover.

Two lists of answers with the same announcements open a commitment of the ring, with the secret of
the nullifier. What a prover answers to a given challenge is distributed like an accepted answer
that is drawn without a witness, so that it does not tell whose commitment was opened.
-/

import Mathlib.Algebra.BigOperators.Fin
import Mathlib.Data.Set.Card
import Mathlib.Tactic.Module

namespace Agora.Zkp

/-- The challenge of a member of the ring and the two responses to it. -/
structure Answer (Scalar : Type) where
  challenge : Scalar
  zTicket : Scalar
  zSecret : Scalar

/-- What a proof is about: the generators, the nullifier with its base, and the commitments. -/
structure Statement (Point : Type) (size : Nat) where
  generatorG : Point
  generatorH : Point
  omega : Point
  nullifier : Point
  ring : Fin size → Point

variable {Scalar Point : Type} [Field Scalar] [AddCommGroup Point] [Module Scalar Point]
  {size : Nat}

def challengeSum (answers : Fin size → Answer Scalar) : Scalar :=
  ∑ member, (answers member).challenge

namespace Statement

variable (statement : Statement Point size)

def commit (ticket secret : Scalar) : Point :=
  ticket • statement.generatorG + secret • statement.generatorH

/-- The points `A_i` and `B_i` that the verifier recomputes. -/
def announcement (answers : Fin size → Answer Scalar) (member : Fin size) : Point × Point :=
  let answer := answers member
  (answer.zTicket • statement.generatorG + answer.zSecret • statement.generatorH +
      -answer.challenge • statement.ring member,
    answer.zSecret • statement.omega + -answer.challenge • statement.nullifier)

/-- The challenges add up to the hash of the announcements. -/
def Accepts (hash : (Fin size → Point × Point) → Scalar) (answers : Fin size → Answer Scalar) :
    Prop :=
  hash (statement.announcement answers) = challengeSum answers

/-- The relation of the proof. -/
def Opens (member : Fin size) (ticket secret : Scalar) : Prop :=
  statement.ring member = statement.commit ticket secret ∧
    statement.nullifier = secret • statement.omega

/-! ### Extraction -/

/-- Two lists of answers with the same announcements, whose challenges add up differently. -/
structure Fork (Scalar : Type) [Field Scalar] [Module Scalar Point] where
  first : Fin size → Answer Scalar
  second : Fin size → Answer Scalar
  same : statement.announcement first = statement.announcement second
  differ : challengeSum first ≠ challengeSum second

variable {statement}

/-- The first member with two challenges, and the opening of its commitment. -/
def Fork.extract [DecidableEq Scalar] (fork : statement.Fork Scalar) :
    Option (Fin size × Scalar × Scalar) :=
  ((List.finRange size).find? fun member =>
    (fork.first member).challenge ≠ (fork.second member).challenge).map fun member =>
      let first := fork.first member
      let second := fork.second member
      let inverse := (first.challenge - second.challenge)⁻¹
      (member, inverse * (first.zTicket - second.zTicket),
        inverse * (first.zSecret - second.zSecret))

/-- A point is determined by two answers to the same announcement. -/
theorem eq_smul_of_answers {first second : Scalar} {left right point : Point}
    (same : left + -first • point = right + -second • point) (differ : first ≠ second) :
    point = (first - second)⁻¹ • (left - right) := by
  have scaled : left - right = (first - second) • point := by
    refine sub_eq_zero.mp (Eq.trans ?_ (sub_eq_zero.mpr same))
    module
  rw [scaled, inv_smul_smul₀ (sub_ne_zero.mpr differ)]

theorem Fork.opens [DecidableEq Scalar] (fork : statement.Fork Scalar) :
    ∃ member ticket secret, fork.extract = some (member, ticket, secret) ∧
      statement.Opens member ticket secret := by
  have differs : ∃ member, (fork.first member).challenge ≠ (fork.second member).challenge := by
    by_contra! equal
    exact fork.differ (Finset.sum_congr rfl fun member _ => equal member)
  obtain ⟨member, found⟩ := Option.isSome_iff_exists.mp (List.find?_isSome.mpr
    (differs.imp fun member differ => ⟨List.mem_finRange member, decide_eq_true differ⟩))
  have differ : (fork.first member).challenge ≠ (fork.second member).challenge :=
    of_decide_eq_true (List.find?_some found :)
  obtain ⟨sameTicket, sameSecret⟩ := Prod.mk.inj (congrFun fork.same member)
  refine ⟨member, _, _, by rw [extract, found]; rfl, ?_, ?_⟩
  · rw [eq_smul_of_answers sameTicket differ, commit]
    module
  · rw [eq_smul_of_answers sameSecret differ]
    module

/-- A fork opens a commitment of the ring with the secret of the nullifier. Where two forks open
one commitment with two secrets, they relate the generators. -/
theorem fork_opens [DecidableEq Scalar] (fork : statement.Fork Scalar) {otherSize : Nat}
    {omega nullifier : Point} {ring : Fin otherSize → Point}
    (other : Fork { statement with omega, nullifier, ring } Scalar) :
    (∃ member ticket secret, fork.extract = some (member, ticket, secret) ∧
      statement.Opens member ticket secret) ∧
    ∀ member ticket secret otherMember otherTicket otherSecret,
      fork.extract = some (member, ticket, secret) →
      other.extract = some (otherMember, otherTicket, otherSecret) →
      statement.ring member = ring otherMember → secret ≠ otherSecret →
      secret - otherSecret ≠ 0 ∧ (ticket - otherTicket) • statement.generatorG +
        (secret - otherSecret) • statement.generatorH = 0 := by
  refine ⟨fork.opens, fun member ticket secret otherMember otherTicket otherSecret extracted
    otherExtracted commitment differ => ⟨sub_ne_zero.mpr differ, ?_⟩⟩
  obtain ⟨_, _, _, found, opens, -⟩ := fork.opens
  obtain ⟨_, _, _, otherFound, otherOpens, -⟩ := other.opens
  cases extracted.symm.trans found
  cases otherExtracted.symm.trans otherFound
  refine Eq.trans ?_ (sub_eq_zero.mpr (opens.symm.trans (commitment.trans otherOpens)))
  simp only [commit]
  module

/-! ### The prover -/

/-- An opening of a commitment of the ring, with the secret of the nullifier. -/
structure Witness (statement : Statement Point size) (Scalar : Type) [Field Scalar]
    [Module Scalar Point] where
  index : Fin size
  ticket : Scalar
  secret : Scalar
  opens : statement.Opens index ticket secret

namespace Witness

variable (witness : statement.Witness Scalar)

/-- The scalars that the prover draws: three for each of the other members, and two for
themselves. -/
@[ext]
structure Draws where
  others : {member // member ≠ witness.index} → Answer Scalar
  rTicket : Scalar
  rSecret : Scalar

/-- The announcements that the prover hashes. -/
def announced (draws : witness.Draws) (member : Fin size) : Point × Point :=
  if other : member ≠ witness.index then
    statement.announcement (fun _ => draws.others ⟨member, other⟩) member
  else (statement.commit draws.rTicket draws.rSecret, draws.rSecret • statement.omega)

/-- The challenges and the responses of `prove`, once its checks have passed. -/
def answers (hash : (Fin size → Point × Point) → Scalar) (draws : witness.Draws)
    (member : Fin size) : Answer Scalar :=
  let challenge := hash (witness.announced draws) - ∑ other, (draws.others other).challenge
  if other : member ≠ witness.index then draws.others ⟨member, other⟩
  else ⟨challenge, draws.rTicket + challenge * witness.ticket,
    draws.rSecret + challenge * witness.secret⟩

variable {witness} {hash : (Fin size → Point × Point) → Scalar} {draws : witness.Draws}

theorem answers_other (other : {member // member ≠ witness.index}) :
    witness.answers hash draws other = draws.others other := dif_pos other.2

theorem answers_index {challenge : Scalar}
    (forced : hash (witness.announced draws) - ∑ other, (draws.others other).challenge =
      challenge) :
    witness.answers hash draws witness.index =
      ⟨challenge, draws.rTicket + challenge * witness.ticket,
        draws.rSecret + challenge * witness.secret⟩ := by
  rw [answers, dif_neg (not_not.mpr rfl), forced]

/-- The verifier recomputes what the prover has hashed. -/
theorem announcement_answers :
    statement.announcement (witness.answers hash draws) = witness.announced draws := by
  funext member
  by_cases other : member ≠ witness.index
  · rw [announced, dif_pos other]
    simp only [announcement, answers_other ⟨member, other⟩]
  · rw [announced, dif_neg other, not_not.mp other]
    simp only [announcement, answers_index rfl, witness.opens.1, witness.opens.2, commit]
    refine Prod.ext ?_ ?_ <;> module

theorem challengeSum_answers :
    challengeSum (witness.answers hash draws) = hash (witness.announced draws) := by
  rw [challengeSum, Fintype.sum_eq_add_sum_subtype_ne _ witness.index, answers_index rfl]
  simp only [answers_other]
  exact sub_add_cancel _ _

theorem accepts_answers : statement.Accepts hash (witness.answers hash draws) := by
  rw [Accepts, announcement_answers, challengeSum_answers]

/-- The answers of a prover to two challenges are a fork. -/
def fork (draws : witness.Draws) {first second : Scalar} (differ : first ≠ second) :
    statement.Fork Scalar where
  first := witness.answers (fun _ => first) draws
  second := witness.answers (fun _ => second) draws
  same := announcement_answers.trans announcement_answers.symm
  differ := by rwa [challengeSum_answers, challengeSum_answers]

theorem answers_bijOn (witness : statement.Witness Scalar) (challenge : Scalar) :
    Set.BijOn (witness.answers fun _ => challenge) Set.univ
      {answers | challengeSum answers = challenge} := by
  refine ⟨fun draws _ => challengeSum_answers, fun first _ second _ same => ?_,
    fun answers accepted => ?_⟩
  · have others : first.others = second.others := funext fun other => by
      simpa only [answers_other] using congrFun same other
    have own := congrFun same witness.index
    rw [answers_index rfl, answers_index rfl, others] at own
    obtain ⟨-, ticket, secret⟩ := Answer.mk.inj own
    exact Draws.ext others (add_right_cancel ticket) (add_right_cancel secret)
  · -- The own draws are solved from the responses.
    let own := answers witness.index
    refine ⟨⟨fun other => answers other, own.zTicket - own.challenge * witness.ticket,
      own.zSecret - own.challenge * witness.secret⟩, trivial, funext fun member => ?_⟩
    by_cases other : member ≠ witness.index
    · exact answers_other ⟨member, other⟩
    · have forced : challenge - ∑ other : {member // member ≠ witness.index},
          (answers other).challenge = own.challenge := by
        rw [← accepted, challengeSum, Fintype.sum_eq_add_sum_subtype_ne _ witness.index,
          add_sub_cancel_right]
      rw [not_not.mp other, answers_index forced, sub_add_cancel, sub_add_cancel]

/-- The map from what the prover draws to their answers to a given challenge is a bijection onto
the answers that are accepted. So their transcripts are distributed like those of accepted
answers, whatever the witness. -/
theorem answers_indistinguishable (witness : statement.Witness Scalar) (challenge : Scalar) :
    Set.BijOn (witness.answers fun _ => challenge) Set.univ
        {answers | challengeSum answers = challenge} ∧
      ∀ event : Set ((Fin size → Point × Point) × (Fin size → Answer Scalar)),
        {draws | (witness.announced draws, witness.answers (fun _ => challenge) draws) ∈
            event}.encard =
          {answers | statement.Accepts (fun _ => challenge) answers ∧
            (statement.announcement answers, answers) ∈ event}.encard := by
  have bijective := witness.answers_bijOn challenge
  refine ⟨bijective, fun event => ?_⟩
  rw [← (bijective.injOn.mono (Set.subset_univ _)).encard_image]
  congr 1
  ext answers
  constructor
  · rintro ⟨draws, occurs, rfl⟩
    exact ⟨accepts_answers, by rwa [announcement_answers]⟩
  · rintro ⟨accepted, occurs⟩
    obtain ⟨draws, -, rfl⟩ := bijective.surjOn accepted.symm
    exact ⟨draws, by rwa [announcement_answers] at occurs, rfl⟩

end Witness

/-- A commitment of the ring can be opened exactly where there are announcements for which every
challenge can be answered. -/
theorem opens_iff_answerable :
    (∃ member ticket secret, statement.Opens member ticket (secret : Scalar)) ↔
      ∃ announced, ∀ challenge : Scalar, ∃ answers,
        statement.announcement answers = announced ∧
          statement.Accepts (fun _ => challenge) answers := by
  classical
  constructor
  · rintro ⟨member, ticket, secret, opens⟩
    let witness : statement.Witness Scalar := ⟨member, ticket, secret, opens⟩
    let draws : witness.Draws := ⟨fun _ => ⟨0, 0, 0⟩, 0, 0⟩
    exact ⟨witness.announced draws, fun challenge =>
      ⟨_, Witness.announcement_answers, Witness.accepts_answers⟩⟩
  · rintro ⟨announced, answerable⟩
    obtain ⟨first, same, zero⟩ := answerable 0
    obtain ⟨second, again, one⟩ := answerable 1
    obtain ⟨member, ticket, secret, -, opens⟩ := Fork.opens
      ⟨first, second, same.trans again.symm, zero ▸ one ▸ zero_ne_one⟩
    exact ⟨member, ticket, secret, opens⟩

end Statement

end Agora.Zkp

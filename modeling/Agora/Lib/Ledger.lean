/-
This file is a small library of ledgers: an integer balance for every account,
changed by lists of postings.

What a transaction does to a ledger is the list of its postings, so the effect of
a sequence of transactions is the concatenation of their lists, and the balance of
one account is the initial balance plus what was posted to it. The account type is
arbitrary.
-/

import Agora.Lib.Store

namespace Agora

variable {Account Item : Type}

/-- An integer balance for every account. -/
abbrev Ledger (Account : Type) := Account → Int

/-- One posting: an account and the change of its balance. -/
abbrev Posting (Account : Type) := Account × Int

section Posted

variable [DecidableEq Account]

/-- What a list of postings adds to one account. -/
def posted (postings : List (Posting Account)) (account : Account) : Int :=
  (postings.map fun posting => if posting.1 = account then posting.2 else 0).sum

/-- A ledger after a list of postings. -/
def post (ledger : Ledger Account) (postings : List (Posting Account)) : Ledger Account :=
  fun account => ledger account + posted postings account

@[simp]
theorem posted_nil (account : Account) : posted [] account = 0 := rfl

@[simp]
theorem posted_cons (posting : Posting Account) (rest : List (Posting Account))
    (account : Account) :
    posted (posting :: rest) account =
      (if posting.1 = account then posting.2 else 0) + posted rest account := by
  rw [posted, List.map_cons, List.sum_cons]
  rfl

@[simp]
theorem posted_append (first second : List (Posting Account)) (account : Account) :
    posted (first ++ second) account = posted first account + posted second account := by
  rw [posted, List.map_append, List.sum_append]
  rfl

/-- Postings generated item by item add up item by item. -/
theorem posted_flatMap (items : List Item) (postings : Item → List (Posting Account))
    (account : Account) :
    posted (items.flatMap postings) account =
      (items.map fun item => posted (postings item) account).sum := by
  induction items with
  | nil => rfl
  | cons item rest inductionHypothesis =>
    rw [List.flatMap_cons, posted_append, inductionHypothesis, List.map_cons, List.sum_cons]

variable (ledger : Ledger Account)

theorem post_apply (postings : List (Posting Account)) (account : Account) :
    post ledger postings account = ledger account + posted postings account :=
  rfl

@[simp]
theorem post_nil : post ledger [] = ledger := by
  funext account
  rw [post_apply, posted_nil, add_zero]

/-- Posting twice is posting the concatenation. -/
@[simp]
theorem post_post (first second : List (Posting Account)) :
    post (post ledger first) second = post ledger (first ++ second) := by
  funext account
  rw [post_apply, post_apply, post_apply, posted_append, add_assoc]

end Posted

/-! ### A family of accounts -/

section Family

variable {Key : Type} [DecidableEq Account]

/-- What a list of postings adds to a family of accounts together. -/
noncomputable def postedTotal (family : Key → Account) (postings : List (Posting Account)) : Int :=
  ∑ᶠ key, posted postings (family key)

variable {family : Key → Account} (injective : Function.Injective family)

include injective

theorem posting_hasFiniteSupport {posting : Posting Account} :
    (fun key => if posting.1 = family key then posting.2 else 0).HasFiniteSupport := by
  have single : {key | posting.1 = family key}.Subsingleton :=
    fun first firstEq second secondEq => injective (firstEq.symm.trans secondEq)
  refine single.finite.subset fun key member => ?_
  by_contra different
  exact member (if_neg different)

theorem posted_hasFiniteSupport {postings : List (Posting Account)} :
    (fun key => posted postings (family key)).HasFiniteSupport := by
  induction postings with
  | nil => exact Set.finite_empty.subset fun key member => absurd rfl member
  | cons posting rest inductionHypothesis =>
    simp only [posted_cons]
    exact (posting_hasFiniteSupport injective).add inductionHypothesis

theorem postedTotal_cons (posting : Posting Account) (rest : List (Posting Account)) :
    postedTotal family (posting :: rest) =
      ∑ᶠ key, (if posting.1 = family key then posting.2 else 0) + postedTotal family rest := by
  unfold postedTotal
  simp only [posted_cons]
  exact finsum_add_distrib (posting_hasFiniteSupport injective) (posted_hasFiniteSupport injective)

variable {rest : List (Posting Account)} {amount : Int}

/-- A posting to an account of the family counts in full. -/
theorem postedTotal_cons_member {key : Key} :
    postedTotal family ((family key, amount) :: rest) = amount + postedTotal family rest := by
  rw [postedTotal_cons injective, finsum_eq_single _ key, if_pos rfl]
  intro other different
  exact if_neg fun equal => different (injective equal).symm

/-- A posting to another account does not count. -/
theorem postedTotal_cons_other {account : Account} (other : ∀ key, account ≠ family key) :
    postedTotal family ((account, amount) :: rest) = postedTotal family rest := by
  rw [postedTotal_cons injective]
  simp [other]

theorem postedTotal_append {first second : List (Posting Account)} :
    postedTotal family (first ++ second) =
      postedTotal family first + postedTotal family second := by
  unfold postedTotal
  simp only [posted_append]
  exact finsum_add_distrib (posted_hasFiniteSupport injective) (posted_hasFiniteSupport injective)

omit injective in
theorem postedTotal_nil : postedTotal family [] = 0 := by
  simp [postedTotal]

theorem postedTotal_flatMap (items : List Item) (postings : Item → List (Posting Account)) :
    postedTotal family (items.flatMap postings) =
      (items.map fun item => postedTotal family (postings item)).sum := by
  induction items with
  | nil => exact postedTotal_nil
  | cons item rest inductionHypothesis =>
    rw [List.flatMap_cons, postedTotal_append injective, inductionHypothesis, List.map_cons,
      List.sum_cons]

end Family

end Agora

/-
This file models the tokens that the contract moves: balances and allowances of
every token contract, and the two transfers of the token interface.

A token is honest: a transfer moves exactly the amount or fails. When it succeeds
and with which balances is stated once, in `transfer_eq_some` and
`transferFrom_eq_some`.
-/

import Agora.Soroban.Host

namespace Agora.Soroban

/-- Balances by token and holder, allowances by token, owner and spender. -/
structure Tokens where
  balance : Address → Address → Int
  allowance : Address → Address → Address → Int

namespace Tokens

def none : Tokens where
  balance _ _ := 0
  allowance _ _ _ := 0

/-- What a movement of the amount between two holders adds to a holder of the token. -/
def moved (token source target : Address) (amount : Int) (other holder : Address) : Int :=
  if other = token then
    (if holder = target then amount else 0) - (if holder = source then amount else 0)
  else 0

/-- The balances after the amount moved from one holder to another. -/
def move (tokens : Tokens) (token source target : Address) (amount : Int) : Tokens :=
  { tokens with
    balance := fun other holder =>
      tokens.balance other holder + moved token source target amount other holder }

/-- What a token checks before it moves an amount. -/
def CanMove (tokens : Tokens) (token source target : Address) (amount : Int) : Prop :=
  0 ≤ amount ∧ amount ≤ tokens.balance token source ∧
    InI128 (tokens.balance token target + amount)

instance (tokens : Tokens) (token source target : Address) (amount : Int) :
    Decidable (tokens.CanMove token source target amount) :=
  inferInstanceAs (Decidable (_ ∧ _ ∧ _))

def transfer (tokens : Tokens) (token source target : Address) (amount : Int) :
    Option Tokens :=
  if tokens.CanMove token source target amount then
    some (tokens.move token source target amount)
  else Option.none

def spendAllowance (tokens : Tokens) (token owner spender : Address) (amount : Int) : Tokens :=
  { tokens with
    allowance := fun other holder delegate =>
      if other = token ∧ holder = owner ∧ delegate = spender then
        tokens.allowance other holder delegate - amount
      else tokens.allowance other holder delegate }

def transferFrom (tokens : Tokens) (token spender source target : Address) (amount : Int) :
    Option Tokens :=
  if amount ≤ tokens.allowance token source spender then
    (tokens.spendAllowance token source spender amount).transfer token source target amount
  else Option.none

variable {tokens next : Tokens} {token source target : Address} {amount : Int}

theorem transfer_eq_some :
    tokens.transfer token source target amount = some next ↔
      tokens.CanMove token source target amount ∧
        next = tokens.move token source target amount := by
  unfold transfer
  split
  · rename_i allowed
    simp [allowed, eq_comm]
  · rename_i refused
    simp [refused]

theorem transferFrom_eq_some {spender : Address} :
    tokens.transferFrom token spender source target amount = some next ↔
      amount ≤ tokens.allowance token source spender ∧
        tokens.CanMove token source target amount ∧
        next = (tokens.spendAllowance token source spender amount).move token source target
          amount := by
  unfold transferFrom
  split
  · rename_i allowed
    rw [transfer_eq_some]
    exact ⟨fun done => ⟨allowed, done.1, done.2⟩, And.right⟩
  · rename_i refused
    simp [refused]

/-! What one holder has after a movement. -/

theorem balance_received (different : source ≠ target) {amount : Int} {other : Address} :
    (tokens.move token source target amount).balance other target =
      tokens.balance other target + if other = token then amount else 0 := by
  show _ + moved token source target amount other target = _
  rw [moved, if_pos rfl, if_neg different.symm, sub_zero]

theorem balance_paid (different : source ≠ target) (amount : Int) (other : Address) :
    (tokens.move token source target amount).balance other source =
      tokens.balance other source - if other = token then amount else 0 := by
  show _ + moved token source target amount other source = _
  rw [moved, if_pos rfl, if_neg different, zero_sub, sub_eq_add_neg]
  split
  · rfl
  · rfl

end Tokens

end Agora.Soroban

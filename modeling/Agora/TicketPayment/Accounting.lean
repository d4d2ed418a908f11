/-
This file models the operations that change the books or move tokens, and states
what each of them posts to the ledger.

Every operation is a checked transaction around a change of the state. The change
has one lemma on the ledger, the transaction has one rule that gives its
postcondition, and no later proof unfolds either.
-/

import Agora.TicketPayment.World

namespace Agora.TicketPayment

open Soroban

variable {Registry : Type}

namespace World

/-! ### Changes of the state -/

/-- Overwrite the balance of an event. -/
def withBalance (world : World Registry) (eventId : EventId) (balance : EventBalance) :
    World Registry :=
  { world with
    books := { world.books with balances := world.books.balances.set eventId balance } }

def addVolume (world : World Registry) (amount : Int) : World Registry :=
  { world with
    books := { world.books with
      totalVolumeProcessed := world.books.totalVolumeProcessed + amount } }

def addFees (world : World Registry) (token : Address) (amount : Int) : World Registry :=
  { world with
    books := { world.books with
      totalFeesCollected := world.books.totalFeesCollected.set token
        (world.books.getTotalFeesCollectedByToken token + amount) } }

def addEscrowTotal (world : World Registry) (amount : Int) : World Registry :=
  { world with
    books := { world.books with activeEscrowTotal := world.books.activeEscrowTotal + amount } }

def addEscrow (world : World Registry) (token : Address) (amount : Int) : World Registry :=
  { world with
    books := { world.books with
      activeEscrowByToken := world.books.activeEscrowByToken.set token
        (world.books.getActiveEscrowByToken token + amount) } }

/-- Note an amount under every given heading. -/
def note (world : World Registry) (headings : List Trail) (amount : Int) : World Registry :=
  { world with trail := headings.map (fun heading => (heading, amount)) ++ world.trail }

/-- Tokens leave the contract. -/
def pay (host : Host) (world : World Registry) (token target : Address) (amount : Int)
    (headings : List Trail) : World Registry :=
  { world with tokens := world.tokens.move token host.contract target amount }.note headings
    amount

/-- Tokens enter the contract, out of an allowance. -/
def pull (host : Host) (world : World Registry) (token source : Address) (amount : Int)
    (headings : List Trail) : World Registry :=
  { world with
    tokens := (world.tokens.spendAllowance token source host.contract amount).move token source
      host.contract amount }.note headings amount

/-! ### What the changes post -/

section Ledger

variable (host : Host) (world : World Registry)

attribute [local simp] ledger post_apply Store.get_set Books.getEventBalance
  Books.getTotalFeesCollectedByToken Books.getActiveEscrowByToken

theorem ledger_withBalance {eventId : EventId} {balance : EventBalance} :
    (world.withBalance eventId balance).ledger host = post (world.ledger host)
      [(.organizer eventId,
          balance.organizerAmount - (world.books.getEventBalance eventId).organizerAmount),
        (.withdrawn eventId,
          balance.totalWithdrawn - (world.books.getEventBalance eventId).totalWithdrawn),
        (.platform eventId,
          balance.platformFee - (world.books.getEventBalance eventId).platformFee)] := by
  funext account
  cases account with
  | organizer other | withdrawn other | platform other =>
    by_cases same : other = eventId
    · simp [withBalance, same]
    · simp [withBalance, same, Ne.symm same]
  | _ => simp [withBalance]

variable (token : Address) (headings : List Trail) (amount : Int)

theorem ledger_addVolume : (world.addVolume amount).ledger host = world.ledger host := by
  funext account
  cases account <;> rfl

theorem ledger_addFees :
    (world.addFees token amount).ledger host =
      post (world.ledger host) [(.fees token, amount)] := by
  funext account
  cases account with
  | fees other =>
    by_cases same : other = token
    · simp [addFees, same]
    · simp [addFees, same, Ne.symm same]
  | _ => simp [addFees]

theorem ledger_addEscrowTotal :
    (world.addEscrowTotal amount).ledger host =
      post (world.ledger host) [(.escrowTotal, amount)] := by
  funext account
  cases account <;> simp [addEscrowTotal]

theorem ledger_addEscrow :
    (world.addEscrow token amount).ledger host =
      post (world.ledger host) [(.escrow token, amount)] := by
  funext account
  cases account with
  | escrow other =>
    by_cases same : other = token
    · simp [addEscrow, same]
    · simp [addEscrow, same, Ne.symm same]
  | _ => simp [addEscrow]

/-- The postings of a note. -/
def noted (headings : List Trail) (amount : Int) : List (Posting Account) :=
  headings.map fun heading => (.trail heading, amount)

@[simp]
theorem noted_nil : noted [] amount = [] := rfl

@[simp]
theorem noted_cons (heading : Trail) :
    noted (heading :: headings) amount = (.trail heading, amount) :: noted headings amount := rfl

theorem posted_noted_trail (heading : Trail) :
    posted (noted headings amount) (.trail heading) =
      posted (headings.map fun entry => (entry, amount)) heading := by
  induction headings with
  | nil => rfl
  | cons head rest inductionHypothesis =>
    rw [noted, List.map_cons, posted_cons, List.map_cons, posted_cons, ← inductionHypothesis]
    simp [noted]

@[simp]
theorem posted_noted_of_ne (account : Account) (real : ∀ heading, account ≠ .trail heading) :
    posted (noted headings amount) account = 0 := by
  induction headings with
  | nil => rfl
  | cons head rest inductionHypothesis =>
    rw [noted, List.map_cons, posted_cons, if_neg (Ne.symm (real head)), zero_add]
    exact inductionHypothesis

theorem ledger_note :
    (world.note headings amount).ledger host =
      post (world.ledger host) (noted headings amount) := by
  funext account
  cases account with
  | trail heading =>
    rw [post_apply, posted_noted_trail]
    show posted (_ ++ world.trail) heading = posted world.trail heading + _
    rw [posted_append, add_comm]
  | _ =>
    rw [post_apply, posted_noted_of_ne headings amount _ (by intro heading equal; cases equal),
      add_zero]
    rfl

variable {amount}

theorem ledger_tokens {tokens : Tokens} {token : Address}
    (held : ∀ other, tokens.balance other host.contract =
      world.tokens.balance other host.contract + if token = other then amount else 0) :
    { world with tokens := tokens }.ledger host =
      post (world.ledger host) [(.held token, amount)] := by
  funext account
  cases account <;> simp [held]

variable {headings}

theorem ledger_pay {token target : Address} :
    (world.pay host token target amount headings).ledger host = post (world.ledger host)
      ((.held token, if target = host.contract then 0 else -amount) ::
        noted headings amount) := by
  rw [pay, ledger_note, ← List.singleton_append, ← post_post]
  refine congrArg (post · _) (ledger_tokens host world fun other => ?_)
  by_cases same : token = other <;> by_cases own : target = host.contract <;>
    simp [Tokens.move, Tokens.moved, same, own, eq_comm]

theorem ledger_pull {token source : Address} :
    (world.pull host token source amount headings).ledger host = post (world.ledger host)
      ((.held token, if source = host.contract then 0 else amount) ::
        noted headings amount) := by
  rw [pull, ledger_note, ← List.singleton_append, ← post_post]
  refine congrArg (post · _) (ledger_tokens host world fun other => ?_)
  by_cases same : token = other <;> by_cases own : source = host.contract <;>
    simp [Tokens.spendAllowance, Tokens.move, Tokens.moved, same, own, eq_comm]

end Ledger

/-- The balance of an event is read off the ledger. -/
theorem getEventBalance_eq_of_ledger {host : Host} {world next : World Registry}
    {eventId : EventId}
    (organizer : next.ledger host (.organizer eventId) = world.ledger host (.organizer eventId))
    (withdrawn : next.ledger host (.withdrawn eventId) = world.ledger host (.withdrawn eventId))
    (platform : next.ledger host (.platform eventId) = world.ledger host (.platform eventId)) :
    next.books.getEventBalance eventId = world.books.getEventBalance eventId := by
  simp only [ledger] at organizer withdrawn platform
  cases after : next.books.getEventBalance eventId
  cases before : world.books.getEventBalance eventId
  simp only [after, before] at organizer withdrawn platform
  rw [organizer, withdrawn, platform]

end World

/-! ### The operations -/

/-- A token transfer by the contract. -/
def payOut (host : Host) (token target : Address) (amount : Int) (headings : List Trail) :
    Entry Registry Unit := do
  let world ← get
  let tokens ← orFault (world.tokens.transfer token host.contract target amount) .trap
  modify fun world => { world with tokens := tokens }.note headings amount

/-- A transfer that is skipped unless the amount is positive. -/
def payIfPositive (host : Host) (token target : Address) (amount : Int)
    (headings : List Trail) : Entry Registry Unit :=
  if 0 < amount then payOut host token target amount headings else pure ()

/-- A token transfer to the contract out of an allowance. -/
def pullIn (host : Host) (token source : Address) (amount : Int) (headings : List Trail) :
    Entry Registry Unit := do
  let world ← get
  let tokens ← orFault
    (world.tokens.transferFrom token host.contract source host.contract amount) .trap
  modify fun world => { world with tokens := tokens }.note headings amount

def setEventBalance (eventId : EventId) (balance : EventBalance) : Entry Registry Unit :=
  modify (·.withBalance eventId balance)

def updateEventBalance (eventId : EventId) (organizerAmount platformFee : Int) :
    Entry Registry Unit := do
  let world ← get
  let balance := world.books.getEventBalance eventId
  let organizer ← orFault (checkedAdd balance.organizerAmount organizerAmount) .trap
  let platform ← orFault (checkedAdd balance.platformFee platformFee) .trap
  setEventBalance eventId
    { balance with organizerAmount := organizer, platformFee := platform }

def addToTotalVolumeProcessed (amount : Int) : Entry Registry Unit := do
  let world ← get
  require (InI128 (world.books.totalVolumeProcessed + amount)) .trap
  modify (·.addVolume amount)

def addToTotalFeesCollectedByToken (token : Address) (amount : Int) : Entry Registry Unit := do
  let world ← get
  require (InI128 (world.books.getTotalFeesCollectedByToken token + amount)) .trap
  modify (·.addFees token amount)

def subtractFromTotalFeesCollectedByToken (token : Address) (amount : Int) :
    Entry Registry Unit :=
  addToTotalFeesCollectedByToken token (-amount)

def addToActiveEscrowTotal (amount : Int) : Entry Registry Unit := do
  let world ← get
  require (InI128 (world.books.activeEscrowTotal + amount)) .trap
  modify (·.addEscrowTotal amount)

def subtractFromActiveEscrowTotal (amount : Int) : Entry Registry Unit :=
  addToActiveEscrowTotal (-amount)

def addToActiveEscrowByToken (token : Address) (amount : Int) : Entry Registry Unit := do
  let world ← get
  require (InI128 (world.books.getActiveEscrowByToken token + amount)) .trap
  modify (·.addEscrow token amount)

def subtractFromActiveEscrowByToken (token : Address) (amount : Int) : Entry Registry Unit :=
  addToActiveEscrowByToken token (-amount)

/-! ### The rules of the operations -/

section Rules

variable {world : World Registry} {outcome : Unit → World Registry → Prop}

variable (eventId : EventId) (balance : EventBalance) (host : Host)

theorem ensures_payOut (token target : Address) (amount : Int) (headings : List Trail) :
    Ensures (payOut host token target amount headings) world outcome ↔
      (world.tokens.CanMove token host.contract target amount →
        outcome () (world.pay host token target amount headings)) := by
  simp only [payOut, ensures_rules, Tokens.transfer_eq_some, and_imp]
  exact ⟨fun rule allowed => rule _ allowed rfl, fun rule _ allowed same => same ▸ rule allowed⟩

theorem ensures_pullIn (token source : Address) (amount : Int) (headings : List Trail) :
    Ensures (pullIn host token source amount headings) world outcome ↔
      (amount ≤ world.tokens.allowance token source host.contract →
        world.tokens.CanMove token source host.contract amount →
        outcome () (world.pull host token source amount headings)) := by
  simp only [pullIn, ensures_rules, Tokens.transferFrom_eq_some, and_imp]
  exact ⟨fun rule spendable allowed => rule _ spendable allowed rfl,
    fun rule _ spendable allowed same => same ▸ rule spendable allowed⟩

theorem ensures_setEventBalance :
    Ensures (setEventBalance eventId balance) world outcome ↔
      outcome () (world.withBalance eventId balance) :=
  ensures_modify _

theorem ensures_updateEventBalance (organizerAmount platformFee : Int) :
    Ensures (updateEventBalance eventId organizerAmount platformFee) world outcome ↔
      (InI128 ((world.books.getEventBalance eventId).organizerAmount + organizerAmount) →
        InI128 ((world.books.getEventBalance eventId).platformFee + platformFee) →
        outcome () (world.withBalance eventId
          { organizerAmount :=
              (world.books.getEventBalance eventId).organizerAmount + organizerAmount
            totalWithdrawn := (world.books.getEventBalance eventId).totalWithdrawn
            platformFee := (world.books.getEventBalance eventId).platformFee + platformFee })) := by
  simp only [updateEventBalance, ensures_rules, ensures_setEventBalance, checkedAdd,
    checkedI128_eq_some, and_imp]
  exact ⟨fun rule organizerFits platformFits => rule _ organizerFits rfl _ platformFits rfl,
    fun rule _ organizerFits organizerEq _ platformFits platformEq =>
      organizerEq ▸ platformEq ▸ rule organizerFits platformFits⟩

/-- The rules of the counters, for `simp`. -/
theorem ensures_counters :
    (∀ {world : World Registry} {outcome : Unit → World Registry → Prop} (amount : Int),
      Ensures (addToTotalVolumeProcessed amount) world outcome ↔
        (InI128 (world.books.totalVolumeProcessed + amount) →
          outcome () (world.addVolume amount))) ∧
    (∀ {world : World Registry} {outcome : Unit → World Registry → Prop} (token : Address)
      (amount : Int), Ensures (addToTotalFeesCollectedByToken token amount) world outcome ↔
        (InI128 (world.books.getTotalFeesCollectedByToken token + amount) →
          outcome () (world.addFees token amount))) ∧
    (∀ {world : World Registry} {outcome : Unit → World Registry → Prop} (amount : Int),
      Ensures (addToActiveEscrowTotal amount) world outcome ↔
        (InI128 (world.books.activeEscrowTotal + amount) →
          outcome () (world.addEscrowTotal amount))) ∧
    ∀ {world : World Registry} {outcome : Unit → World Registry → Prop} (token : Address)
      (amount : Int), Ensures (addToActiveEscrowByToken token amount) world outcome ↔
        (InI128 (world.books.getActiveEscrowByToken token + amount) →
          outcome () (world.addEscrow token amount)) := by
  simp [addToTotalVolumeProcessed, addToTotalFeesCollectedByToken, addToActiveEscrowTotal,
    addToActiveEscrowByToken, ensures_rules]

/-! ### The rules of success -/

theorem succeeds_payOut (token target : Address) (amount : Int) (headings : List Trail) :
    Succeeds (payOut host token target amount headings) world outcome ↔
      world.tokens.CanMove token host.contract target amount ∧
        outcome () (world.pay host token target amount headings) := by
  simp only [payOut, succeeds_rules, Tokens.transfer_eq_some]
  constructor
  · rintro ⟨_, ⟨allowed, rfl⟩, holds⟩
    exact ⟨allowed, holds⟩
  · rintro ⟨allowed, holds⟩
    exact ⟨_, ⟨allowed, rfl⟩, holds⟩

theorem succeeds_setEventBalance :
    Succeeds (setEventBalance eventId balance) world outcome ↔
      outcome () (world.withBalance eventId balance) := by
  simp only [setEventBalance, succeeds_rules]

theorem succeeds_addToActiveEscrowTotal (amount : Int) :
    Succeeds (addToActiveEscrowTotal amount) world outcome ↔
      InI128 (world.books.activeEscrowTotal + amount) ∧
        outcome () (world.addEscrowTotal amount) := by
  simp only [addToActiveEscrowTotal, succeeds_rules]

theorem succeeds_addToActiveEscrowByToken (token : Address) (amount : Int) :
    Succeeds (addToActiveEscrowByToken token amount) world outcome ↔
      InI128 (world.books.getActiveEscrowByToken token + amount) ∧
        outcome () (world.addEscrow token amount) := by
  simp only [addToActiveEscrowByToken, succeeds_rules]

end Rules

end Agora.TicketPayment

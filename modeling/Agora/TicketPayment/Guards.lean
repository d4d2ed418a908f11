/-
This file models the checks that the entry points share: authorisation, the
initialisation and pause flags, and the calls to the registry. It also names the
changes of the state that leave the ledger alone.
-/

import Agora.TicketPayment.Accounting

namespace Agora.TicketPayment

open Soroban

variable {Registry : Type}

/-! ### Changes outside the books -/

namespace World

def withTickets (world : World Registry) (change : Tickets → Tickets) : World Registry :=
  { world with tickets := change world.tickets }

def withSettings (world : World Registry) (change : Settings → Settings) : World Registry :=
  { world with settings := change world.settings }

def withDiscounts (world : World Registry) (change : Discounts → Discounts) : World Registry :=
  { world with discounts := change world.discounts }

def withAuctions (world : World Registry) (change : Auctions → Auctions) : World Registry :=
  { world with auctions := change world.auctions }

def withGovernance (world : World Registry) (change : Governance → Governance) :
    World Registry :=
  { world with governance := change world.governance }

def withListing (world : World Registry) (listing : ResaleListing) : World Registry :=
  { world with resale := world.resale.set listing.paymentId listing }

def withRegistry (world : World Registry) (registry : Registry) : World Registry :=
  { world with registry := registry }

/-- The ledger reads the books, the tokens and the notes. -/
theorem ledger_congr {host : Host} {world next : World Registry}
    (books : next.books = world.books) (tokens : next.tokens = world.tokens)
    (trail : next.trail = world.trail) : next.ledger host = world.ledger host := by
  funext account
  cases account <;> simp only [ledger, books, tokens, trail]

end World

/-! ### Checks -/

section Checks

variable {host : Host}

/-- The source's `require_auth`. -/
def requireAuth (env : Env host) (address : Address) : Entry Registry Unit :=
  require (env.signed address = true) .trap

def requireInitialized : Entry Registry Unit := do
  let world ← get
  require (world.settings.initialized = true) (.panic "Contract not initialized")

def requireNotPaused : Entry Registry Unit := do
  let world ← get
  require (world.settings.isPaused = false) (.error .contractPaused)

def requireAdmin (env : Env host) : Entry Registry Address := do
  let world ← get
  let admin ← orFault world.settings.admin (.error .notInitialized)
  requireAuth env admin
  pure admin

def getPayment (paymentId : PaymentId) : Entry Registry Payment := do
  let world ← get
  orFault (world.tickets.getPayment paymentId) (.error .paymentNotFound)

/-- An overflow that the source turns into an error. -/
def checked (value : Option Int) : Entry Registry Int :=
  orFault value (.error .arithmeticError)

/-- An overflow that traps under the release profile. -/
def trapping (value : Option Int) : Entry Registry Int :=
  orFault value .trap

def isTokenWhitelisted (world : World Registry) (token : Address) : Bool :=
  (world.settings.tokenWhitelist.get token).isSome

def isEventCancelledForRefund (world : World Registry) (eventId : EventId) : Bool :=
  (world.settings.cancelledForRefund.get eventId).isSome

def eventAcceptsToken (world : World Registry) (event : EventInfo) (token : Address) : Bool :=
  if event.useGlobalWhitelist || event.acceptedTokens.isEmpty then
    isTokenWhitelisted world token
  else event.acceptedTokens.contains token

def zeroAddress : Address :=
  ⟨"GAAAAAAAAAAAAAAAAAAAAAAAAAAAAAAAAAAAAAAAAAAAAAAAAAAAJXFF"⟩

/-- The source's `validate_address` and `validate_recipient`, which are the same check. -/
def validateRecipient (host : Host) (address : Address) : Entry Registry Unit :=
  require (¬(address = host.contract ∨ address = zeroAddress)) (.error .invalidAddress)

end Checks

section RegistryCalls

variable [RegistryApi Registry]

def requireRegistry : Entry Registry Unit := do
  let world ← get
  require (world.settings.eventRegistry.isSome = true) (.panic "Event registry not set")

def getEvent (eventId : EventId) : Entry Registry EventInfo := do
  requireRegistry
  let world ← get
  orFault (RegistryApi.getEvent world.registry eventId) (.error .eventNotFound)

/-- A dispute that is open or being voted on blocks payouts and refunds. -/
def isEventDisputed (world : World Registry) (eventId : EventId) : Bool :=
  match RegistryApi.getDispute world.registry eventId with
  | some .opened | some .voting => true
  | _ => false

def requireUndisputed (eventId : EventId) : Entry Registry Unit := do
  let world ← get
  require (isEventDisputed world eventId = false) (.error .eventDisputed)

def incrementInventory (host : Host) (eventId : EventId) (tierId : TierId) (user : Address)
    (quantity : Nat) (token : Address) : Entry Registry Unit := do
  let world ← get
  let registry ← orFault (RegistryApi.incrementInventory world.registry host.contract eventId
    tierId user quantity token) .trap
  modify (·.withRegistry registry)

def decrementInventory (host : Host) (eventId : EventId) (tierId : TierId) (user : Address) :
    Entry Registry Unit := do
  let world ← get
  let registry ← orFault
    (RegistryApi.decrementInventory world.registry host.contract eventId tierId user) .trap
  modify (·.withRegistry registry)

end RegistryCalls

/-! ### The rules of the checks -/

section Rules

variable {host : Host} {world : World Registry}

variable {outcome : Unit → World Registry → Prop}

/-- The rules of the checks, for `simp`. -/
theorem ensures_checks :
    (∀ {host : Host} {world : World Registry} {outcome : Unit → World Registry → Prop}
      (env : Env host) (address : Address), Ensures (requireAuth env address) world outcome ↔
        (env.signed address = true → outcome () world)) ∧
    (∀ {world : World Registry} {outcome : Unit → World Registry → Prop},
      Ensures requireInitialized world outcome ↔
        (world.settings.initialized = true → outcome () world)) ∧
    (∀ {world : World Registry} {outcome : Unit → World Registry → Prop},
      Ensures requireNotPaused world outcome ↔
        (world.settings.isPaused = false → outcome () world)) ∧
    (∀ {host : Host} {world : World Registry} {outcome : Address → World Registry → Prop}
      (env : Env host), Ensures (requireAdmin env) world outcome ↔
        ∀ admin, world.settings.admin = some admin → env.signed admin = true →
          outcome admin world) ∧
    ∀ {world : World Registry} {outcome : Payment → World Registry → Prop} (paymentId : PaymentId),
      Ensures (getPayment paymentId) world outcome ↔
        ∀ payment, world.tickets.getPayment paymentId = some payment → outcome payment world := by
  simp only [requireAuth, requireInitialized, requireNotPaused, requireAdmin, getPayment,
    ensures_rules, implies_true, and_self]

variable [RegistryApi Registry] (eventId : EventId)

theorem ensures_getEvent {outcome : EventInfo → World Registry → Prop} :
    Ensures (getEvent eventId) world outcome ↔
      (world.settings.eventRegistry.isSome = true →
        ∀ event, RegistryApi.getEvent world.registry eventId = some event →
          outcome event world) := by
  simp only [getEvent, requireRegistry, ensures_rules]

theorem ensures_requireUndisputed :
    Ensures (requireUndisputed eventId) world outcome ↔
      (isEventDisputed world eventId = false → outcome () world) := by
  simp only [requireUndisputed, ensures_rules]

theorem ensures_incrementInventory (host : Host) (eventId : EventId) (tierId : TierId)
    (user : Address) (quantity : Nat) (token : Address) :
    Ensures (incrementInventory host eventId tierId user quantity token) world outcome ↔
      ∀ registry, RegistryApi.incrementInventory world.registry host.contract eventId tierId user
          quantity token = some registry → outcome () (world.withRegistry registry) := by
  simp only [incrementInventory, ensures_rules]

theorem ensures_decrementInventory (host : Host) (eventId : EventId) (tierId : TierId)
    (user : Address) :
    Ensures (decrementInventory host eventId tierId user) world outcome ↔
      ∀ registry, RegistryApi.decrementInventory world.registry host.contract eventId tierId user =
          some registry → outcome () (world.withRegistry registry) := by
  simp only [decrementInventory, ensures_rules]

/-! ### The rules of success -/

omit [RegistryApi Registry] in
theorem succeeds_requireAuth (env : Env host) (address : Address) :
    Succeeds (requireAuth env address) world outcome ↔
      env.signed address = true ∧ outcome () world := by
  simp only [requireAuth, succeeds_rules]

theorem succeeds_getEvent {outcome : EventInfo → World Registry → Prop} :
    Succeeds (getEvent eventId) world outcome ↔
      world.settings.eventRegistry.isSome = true ∧
        ∃ event, RegistryApi.getEvent world.registry eventId = some event ∧
          outcome event world := by
  simp only [getEvent, requireRegistry, succeeds_rules]

theorem succeeds_requireUndisputed :
    Succeeds (requireUndisputed eventId) world outcome ↔
      isEventDisputed world eventId = false ∧ outcome () world := by
  simp only [requireUndisputed, succeeds_rules]

end Rules

end Agora.TicketPayment

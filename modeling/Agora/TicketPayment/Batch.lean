/-
This file models the refunds of many payments at once: `trigger_bulk_refund`,
`issue_partial_refund` and `trigger_dispute_refund_cascade`.

The first two share their loop: it walks over a window of the event's payments,
pays and rewrites the ones it selects, and adds up what is written to the books
after the loop. They differ in which payments they select and what they pay. The
cascade walks over all payments and books each one as it goes.

Which payments a loop refunds is computed from the records alone, by the same walk,
so that a condition on the state before the call can speak of them.
-/

import Agora.TicketPayment.Refund

namespace Agora.TicketPayment

open Soroban

variable {Registry : Type} {host : Host}

/-! ### The loop of the bulk and partial refunds -/

/-- What a loop does with one payment. `fits` says that the additions to the record do not
overflow. -/
structure BatchItem where
  paymentId : PaymentId
  payment : Payment
  record : Payment
  refund : Int
  organizerBack : Int
  platformBack : Int
  fits : Bool

/-- What the loop adds up: the balance is written to storage once, after the loop. -/
structure BatchTotals where
  count : Nat
  refunded : Int
  balance : EventBalance

/-- Which payments a loop selects. -/
abbrev Selection := PaymentId → Payment → Option BatchItem

/-- The bulk refund returns the full amount of every confirmed payment. -/
def bulkItem (timestamp : Nat) : Selection := fun paymentId payment =>
  if payment.status = .confirmed then
    some ⟨paymentId, payment, payment.refunded timestamp, payment.amount,
      payment.organizerAmount, payment.platformFee, true⟩
  else none

def partialRefundAmount (percentage : Nat) (payment : Payment) : Int :=
  (payment.amount * percentage).tdiv maxBps

/-- The record after a partial refund. -/
def Payment.partlyRefunded (payment : Payment) (refund : Int) : Payment :=
  { payment with
    refundedAmount := payment.refundedAmount + refund
    organizerAmount := payment.organizerAmount - refund }

/-- A partial refund is paid where it is positive and the organizer's share covers it. -/
def partialItem (percentage : Nat) : Selection := fun paymentId payment =>
  let refund := partialRefundAmount percentage payment
  if payment.status = .confirmed ∧ 0 < refund ∧ refund ≤ payment.organizerAmount then
    some ⟨paymentId, payment, payment.partlyRefunded refund, refund, refund, 0,
      decide (InI128 (payment.refundedAmount + refund))⟩
  else none

def refundItem (host : Host) (totals : BatchTotals) (item : BatchItem) :
    Entry Registry BatchTotals := do
  payOut host item.payment.tokenAddress item.payment.buyerAddress item.refund
    [.refunded item.paymentId]
  require (item.fits = true) .trap
  modify (·.withTickets fun tickets => tickets.storePayment item.record)
  let organizer ← trapping (checkedSub totals.balance.organizerAmount item.organizerBack)
  let platform ← trapping (checkedSub totals.balance.platformFee item.platformBack)
  let refunded ← trapping (checkedAdd totals.refunded item.refund)
  subtractFromActiveEscrowByToken item.payment.tokenAddress item.refund
  pure ⟨totals.count + 1, refunded,
    { totals.balance with organizerAmount := organizer, platformFee := platform }⟩

/-- One turn of the loop. `fits` is the overflow check of the percentage, which only the partial
refund makes. -/
def refundTurn (host : Host) (fits : Payment → Bool) (select : Selection)
    (totals : BatchTotals) (paymentId : PaymentId) : Entry Registry BatchTotals := do
  let world ← get
  match world.tickets.getPayment paymentId with
  | none => pure totals
  | some payment =>
    require (fits payment = true) (.error .arithmeticError)
    match select paymentId payment with
    | none => pure totals
    | some item => refundItem host totals item

/-- The window of a batch: from the stored index, at most `batchSize` payments. -/
def window (ids : List PaymentId) (start stop : Nat) : List PaymentId :=
  (ids.take stop).drop start

def refundWindow (host : Host) (fits : Payment → Bool) (select : Selection)
    (eventId : EventId) (ids : List PaymentId) : Entry Registry BatchTotals := do
  let world ← get
  let totals ← ids.foldlM (refundTurn host fits select)
    ⟨0, 0, world.books.getEventBalance eventId⟩
  if 0 < totals.count then do
    setEventBalance eventId totals.balance
    subtractFromActiveEscrowTotal totals.refunded
    pure totals
  else pure totals

/-! ### The entry points -/

def bulkRefundIndex (world : World Registry) (eventId : EventId) : Nat :=
  (world.settings.bulkRefundIndex.get eventId).getD 0

def partialRefundIndex (world : World Registry) (eventId : EventId) : Nat :=
  (world.settings.partialRefundIndex.get eventId).getD 0

def partialRefundPercentage (world : World Registry) (eventId : EventId) : Nat :=
  (world.settings.partialRefundPercentage.get eventId).getD 0

def setBulkRefundIndex (eventId : EventId) (index : Nat) : Entry Registry Unit :=
  modify (·.withSettings fun settings =>
    { settings with bulkRefundIndex := settings.bulkRefundIndex.set eventId index })

def setPartialRefundIndex (eventId : EventId) (index : Nat) : Entry Registry Unit :=
  modify (·.withSettings fun settings =>
    { settings with partialRefundIndex := settings.partialRefundIndex.set eventId index })

def setPartialRefundPercentage (eventId : EventId) (percentage : Nat) : Entry Registry Unit :=
  modify (·.withSettings fun settings =>
    { settings with
      partialRefundPercentage := settings.partialRefundPercentage.set eventId percentage })

def triggerBulkRefund [RegistryApi Registry] (env : Env host) (eventId : EventId)
    (batchSize : Nat) :
    Entry Registry Nat := do
  requireInitialized
  requireNotPaused
  let event ← getEvent eventId
  requireAuth env event.organizerAddress
  require (event.isActive = false ∧ event.status = .cancelled) (.error .eventNotCompleted)
  let world ← get
  let start := bulkRefundIndex world eventId
  let ids := world.tickets.getEventPayments eventId
  if ids.length ≤ start then pure 0
  else do
    -- the source adds in u32
    require (start + batchSize < 2 ^ 32) .trap
    let stop := min (start + batchSize) ids.length
    let totals ← refundWindow host (fun _ => true) (bulkItem env.timestamp) eventId
      (window ids start stop)
    setBulkRefundIndex eventId stop
    pure totals.count

/-- The overflow check of the partial refund, made for confirmed payments only. -/
def partialFits (percentage : Nat) (payment : Payment) : Bool :=
  payment.status ≠ .confirmed || decide (InI128 (payment.amount * percentage))

/-- The percentage of the first batch is kept for the later ones. -/
def lockPercentage (eventId : EventId) (start percentageBps : Nat) : Entry Registry Unit :=
  if start = 0 then setPartialRefundPercentage eventId percentageBps else pure ()

def issuePartialRefund [RegistryApi Registry] (env : Env host) (eventId : EventId)
    (percentageBps batchSize : Nat) :
    Entry Registry Nat := do
  requireInitialized
  requireNotPaused
  require (percentageBps ≤ maxBps) (.panic "Percentage cannot exceed 100%")
  let event ← getEvent eventId
  requireAuth env event.organizerAddress
  let world ← get
  let start := partialRefundIndex world eventId
  let ids := world.tickets.getEventPayments eventId
  if ids.length ≤ start then
    if 0 < partialRefundPercentage world eventId then do
      setPartialRefundPercentage eventId 0
      setPartialRefundIndex eventId 0
      pure 0
    else pure 0
  else do
    lockPercentage eventId start percentageBps
    let locked ← get
    let percentage := partialRefundPercentage locked eventId
    require (start + batchSize < 2 ^ 32) .trap
    let stop := min (start + batchSize) ids.length
    let totals ← refundWindow host (partialFits percentage) (partialItem percentage) eventId
      (window ids start stop)
    setPartialRefundIndex eventId stop
    if ids.length ≤ stop then do
      setPartialRefundPercentage eventId 0
      setPartialRefundIndex eventId 0
      pure totals.count
    else pure totals.count

/-- One turn of the cascade, which books each refund as it is made. -/
def cascadeTurn (env : Env host) (eventId : EventId) (count : Nat) (paymentId : PaymentId) :
    Entry Registry Nat := do
  let world ← get
  match world.tickets.getPayment paymentId with
  | none => pure count
  | some payment =>
    if payment.status = .confirmed then do
      payOut host payment.tokenAddress payment.buyerAddress payment.amount [.refunded paymentId]
      modify (·.withTickets fun tickets => tickets.storePayment (payment.refunded env.timestamp))
      unbook eventId payment payment.amount payment.organizerAmount
      pure (count + 1)
    else pure count

def triggerDisputeRefundCascade [RegistryApi Registry] (env : Env host)
    (eventId : EventId) : Entry Registry Nat := do
  requireInitialized
  requireNotPaused
  requireRegistry
  let world ← get
  let dispute ← orFault (RegistryApi.getDispute world.registry eventId) (.error .eventNotFound)
  require (dispute = .resolvedBuyer) (.error .disputeNotResolved)
  (world.tickets.getEventPayments eventId).foldlM (cascadeTurn env eventId) 0

/-! ### What the loop does -/

/-- The items a loop refunds, each chosen from the records as the earlier ones left them. -/
def selectedAmong (select : Selection) : Tickets → List PaymentId → List BatchItem
  | _, [] => []
  | tickets, paymentId :: rest =>
    match (tickets.getPayment paymentId).bind (select paymentId) with
    | none => selectedAmong select tickets rest
    | some item => item :: selectedAmong select (tickets.storePayment item.record) rest

def storeRecords (items : List BatchItem) (tickets : Tickets) : Tickets :=
  items.foldl (fun tickets item => tickets.storePayment item.record) tickets

variable {items : List BatchItem} {world : World Registry} {eventId : EventId}

theorem getPayment_storeRecords {paymentId : PaymentId}
    (untouched : ∀ item ∈ items, item.record.paymentId ≠ paymentId) (tickets : Tickets) :
    (storeRecords items tickets).getPayment paymentId = tickets.getPayment paymentId := by
  induction items generalizing tickets with
  | nil => rfl
  | cons item rest inductionHypothesis =>
    rw [List.forall_mem_cons] at untouched
    show (storeRecords rest (tickets.storePayment item.record)).getPayment paymentId = _
    rw [inductionHypothesis untouched.2, Tickets.getPayment_storePayment,
      if_neg (Ne.symm untouched.1)]

/-- The postings of one turn. A batch may hold a payment of the contract itself. -/
@[simp]
def itemLines (host : Host) (item : BatchItem) : List (Posting Account) :=
  (.held item.payment.tokenAddress,
      if item.payment.buyerAddress = host.contract then 0 else -item.refund) ::
    (World.noted [.refunded item.paymentId] item.refund ++
      [(.escrow item.payment.tokenAddress, -item.refund)])

def BatchTotals.add (totals : BatchTotals) (item : BatchItem) : BatchTotals where
  count := totals.count + 1
  refunded := totals.refunded + item.refund
  balance :=
    { totals.balance with
      organizerAmount := totals.balance.organizerAmount - item.organizerBack
      platformFee := totals.balance.platformFee - item.platformBack }

def loopChange (host : Host) (items : List BatchItem) : Change where
  lines := items.flatMap (itemLines host)
  tickets := storeRecords items

theorem refundItem_ensures {totals : BatchTotals} {item : BatchItem} :
    Ensures (refundItem host totals item) world fun result next =>
      Does host { lines := itemLines host item,
                  tickets := fun tickets => tickets.storePayment item.record } world next ∧
        result = totals.add item ∧ 0 ≤ item.refund := by
  simp only [refundItem, trapping, subtractFromActiveEscrowByToken, ensures_rules, ensures_payOut,
    ensures_counters]
  intro allowed _ organizer organizerEq platform platformEq refunded refundedEq _
  refine ⟨?_, ?_, allowed.1⟩
  · have paid : Does host _ world _ := Does.pay item.payment.tokenAddress
      item.payment.buyerAddress item.refund [.refunded item.paymentId]
    exact (paid.posting_then_tickets (.withTickets _)).trans
      (.addEscrow item.payment.tokenAddress (-item.refund))
  · rw [eq_of_checkedSub organizerEq, eq_of_checkedSub platformEq, eq_of_checkedAdd refundedEq]
    rfl

/-- One turn of a loop: nothing, or the refund of the payment that is selected. -/
def Turns {Total : Type} (host : Host) (select : Selection)
    (lines : BatchItem → List (Posting Account)) (add : Total → BatchItem → Total)
    (turn : Total → PaymentId → Entry Registry Total) : Prop :=
  ∀ total paymentId world, Ensures (turn total paymentId) world fun result next =>
    match (world.tickets.getPayment paymentId).bind (select paymentId) with
    | none => next = world ∧ result = total
    | some item => Does host { lines := lines item,
                               tickets := fun tickets => tickets.storePayment item.record }
        world next ∧ result = add total item ∧ 0 ≤ item.refund

variable {select : Selection}

theorem Turns.foldlM {Total : Type} {add : Total → BatchItem → Total}
    {lines : BatchItem → List (Posting Account)} {turn : Total → PaymentId → Entry Registry Total}
    (turns : Turns host select lines add turn) (ids : List PaymentId) (total : Total)
    (world : World Registry) :
    Ensures (ids.foldlM turn total) world fun result next =>
      Does host { lines := (selectedAmong select world.tickets ids).flatMap lines,
                  tickets := storeRecords (selectedAmong select world.tickets ids) } world next ∧
        result = (selectedAmong select world.tickets ids).foldl add total ∧
        ∀ item ∈ selectedAmong select world.tickets ids, 0 ≤ item.refund := by
  induction ids generalizing total world with
  | nil =>
    rw [List.foldlM_nil, ensures_pure]
    exact ⟨Does.refl world, rfl, List.forall_mem_nil _⟩
  | cons paymentId rest inductionHypothesis =>
    rw [List.foldlM_cons, ensures_bind]
    refine (turns total paymentId world).mono fun result middle turned => ?_
    rw [selectedAmong]
    split at turned
    · obtain ⟨rfl, rfl⟩ := turned
      exact inductionHypothesis _ _
    · rename_i item _
      obtain ⟨turned, rfl, nonneg⟩ := turned
      refine (inductionHypothesis (add total item) middle).mono ?_
      rintro result next ⟨loop, resultEq, restNonneg⟩
      rw [turned.tickets] at loop resultEq restNonneg
      exact ⟨turned.trans loop, resultEq, List.forall_mem_cons.mpr ⟨nonneg, restNonneg⟩⟩

variable {fits : Payment → Bool}

theorem refundTurn_turns :
    Turns host select (itemLines host) BatchTotals.add
      (refundTurn host fits select : _ → _ → Entry Registry _) := by
  intro totals paymentId world
  rw [refundTurn, ensures_bind, ensures_get]
  cases world.tickets.getPayment paymentId with
  | none =>
    rw [ensures_pure]
    exact ⟨rfl, rfl⟩
  | some payment =>
    simp only [ensures_rules, Option.bind_some]
    intro _
    cases select paymentId payment with
    | none =>
      rw [ensures_pure]
      exact ⟨rfl, rfl⟩
    | some item => exact refundItem_ensures

/-! ### The books after the loop -/

def refundTotal (items : List BatchItem) : Int := (items.map (·.refund)).sum

def organizerTotal (items : List BatchItem) : Int := (items.map (·.organizerBack)).sum

def platformTotal (items : List BatchItem) : Int := (items.map (·.platformBack)).sum

theorem foldl_add_totals (items : List BatchItem) (totals : BatchTotals) :
    items.foldl BatchTotals.add totals =
      { count := totals.count + items.length
        refunded := totals.refunded + refundTotal items
        balance :=
          { organizerAmount := totals.balance.organizerAmount - organizerTotal items
            totalWithdrawn := totals.balance.totalWithdrawn
            platformFee := totals.balance.platformFee - platformTotal items } } := by
  induction items generalizing totals with
  | nil => simp [refundTotal, organizerTotal, platformTotal]
  | cons item rest inductionHypothesis =>
    rw [List.foldl_cons, inductionHypothesis]
    simp only [BatchTotals.add, refundTotal, organizerTotal, platformTotal, List.map_cons,
      List.sum_cons, List.length_cons, BatchTotals.mk.injEq, EventBalance.mk.injEq, true_and]
    refine ⟨by omega, by omega, by omega, by omega⟩

/-- What a window of refunds does: the turns of the loop, then one booking. -/
def windowChange (host : Host) (eventId : EventId) (items : List BatchItem) : Change where
  lines := items.flatMap (itemLines host) ++
    [(.organizer eventId, -organizerTotal items), (.withdrawn eventId, 0),
      (.platform eventId, -platformTotal items), (.escrowTotal, -refundTotal items)]
  tickets := storeRecords items

variable {lines : BatchItem → List (Posting Account)} {account : Account} {value : BatchItem → Int}

/-- Postings generated by a batch add up over its items. -/
theorem posted_items (each : ∀ item ∈ items, posted (lines item) account = value item) :
    posted (items.flatMap lines) account = (items.map value).sum := by
  rw [posted_flatMap]
  exact congrArg List.sum (List.map_congr_left each)

theorem posted_items_zero (untouched : ∀ item, posted (lines item) account = 0) :
    posted (items.flatMap lines) account = 0 := by
  rw [posted_items fun item _ => untouched item]
  simp

/-- What every item takes is taken in total. -/
theorem posted_items_neg (each : ∀ item ∈ items, posted (lines item) account = -value item) :
    posted (items.flatMap lines) account = -(items.map value).sum := by
  rw [posted_items each, List.sum_neg, List.map_map]
  rfl

section PostedWindow

variable (eventId items) (other : EventId)

/-- An account that no turn of the loop touches sees only the booking after it. -/
theorem posted_windowChange {account : Account}
    (untouched : ∀ item, posted (itemLines host item) account = 0) :
    posted (windowChange host eventId items).lines account =
      posted [(.organizer eventId, -organizerTotal items), (.withdrawn eventId, 0),
        (.platform eventId, -platformTotal items), (.escrowTotal, -refundTotal items)] account := by
  rw [windowChange, posted_append, posted_items_zero untouched, zero_add]

@[simp]
theorem posted_windowChange_organizer :
    posted (windowChange host eventId items).lines (.organizer other) =
      if eventId = other then -organizerTotal items else 0 := by
  rw [posted_windowChange items eventId (by simp)]
  simp

@[simp]
theorem posted_windowChange_withdrawn :
    posted (windowChange host eventId items).lines (.withdrawn other) = 0 := by
  rw [posted_windowChange items eventId (by simp)]
  simp

@[simp]
theorem posted_windowChange_platform :
    posted (windowChange host eventId items).lines (.platform other) =
      if eventId = other then -platformTotal items else 0 := by
  rw [posted_windowChange items eventId (by simp)]
  simp

@[simp]
theorem posted_windowChange_fees {token : Address} :
    posted (windowChange host eventId items).lines (.fees token) = 0 := by
  rw [posted_windowChange items eventId (by simp)]
  simp

@[simp]
theorem posted_windowChange_escrowTotal :
    posted (windowChange host eventId items).lines .escrowTotal = -refundTotal items := by
  rw [posted_windowChange items eventId (by simp)]
  simp

end PostedWindow

/-- The loop does not touch the balance that is written after it. -/
theorem loop_getEventBalance {world next : World Registry}
    (loop : Does host (loopChange host items) world next) (eventId : EventId) :
    next.books.getEventBalance eventId = world.books.getEventBalance eventId := by
  have same (account : Account) (untouched : ∀ item, posted (itemLines host item) account = 0) :
      next.ledger host account = world.ledger host account := by
    rw [loop.ledger, post_apply]
    show _ + posted (items.flatMap (itemLines host)) account = _
    rw [posted_items_zero untouched, add_zero]
  exact World.getEventBalance_eq_of_ledger
    (same (.organizer eventId) (by simp))
    (same (.withdrawn eventId) (by simp))
    (same (.platform eventId) (by simp))

theorem refundWindow_ensures {ids : List PaymentId} :
    Ensures (refundWindow host fits select eventId ids) world fun _ next =>
      Does host (windowChange host eventId (selectedAmong select world.tickets ids)) world next ∧
        ∀ item ∈ selectedAmong select world.tickets ids, 0 ≤ item.refund := by
  simp only [refundWindow, ensures_rules]
  refine (refundTurn_turns.foldlM ids _ world).mono ?_
  rintro totals middle ⟨loop, rfl, nonneg⟩
  generalize selectedAmong select world.tickets ids = items at loop nonneg ⊢
  rw [foldl_add_totals]
  simp only [subtractFromActiveEscrowTotal, ensures_setEventBalance,
    ensures_counters, zero_add]
  refine ⟨fun _ _ => ⟨?_, nonneg⟩, fun nothing => ⟨?_, nonneg⟩⟩
  · have balance := loop_getEventBalance loop eventId
    have written : Does host _ middle _ := (Does.withBalance eventId
      { organizerAmount :=
          (world.books.getEventBalance eventId).organizerAmount - organizerTotal items
        totalWithdrawn := (world.books.getEventBalance eventId).totalWithdrawn
        platformFee := (world.books.getEventBalance eventId).platformFee -
          platformTotal items }).trans_posting (.addEscrowTotal (-refundTotal items))
    rw [balance] at written
    refine (loop.trans written).congr_lines fun account => ?_
    simp [Change.andThen]
  · have none : items = [] := List.length_eq_zero_iff.mp (by omega)
    subst none
    refine loop.congr_lines fun account => ?_
    simp [organizerTotal, platformTotal, refundTotal]

/-! ### What the entry points do -/

/-- The payments at which the next bulk refund of an event looks. -/
def bulkWindow (world : World Registry) (eventId : EventId) (batchSize : Nat) :
    List PaymentId :=
  let ids := world.tickets.getEventPayments eventId
  let start := bulkRefundIndex world eventId
  window ids start (min (start + batchSize) ids.length)

/-- The payments of the next bulk refund of an event. -/
def bulkItems (env : Env host) (world : World Registry) (eventId : EventId) (batchSize : Nat) :
    List BatchItem :=
  selectedAmong (bulkItem env.timestamp) world.tickets (bulkWindow world eventId batchSize)

theorem window_of_length_le (ids : List PaymentId) {start stop : Nat} (past : ids.length ≤ start) :
    window ids start stop = [] := by
  rw [window, List.drop_eq_nil_of_le]
  exact (List.length_take_le' stop ids).trans past

theorem windowChange_nil (eventId : EventId) {world : World Registry} :
    Does host (windowChange host eventId []) world world :=
  (Does.refl world).congr_lines fun account => by
    simp [organizerTotal, platformTotal, refundTotal, Change.nothing]

variable {env : Env host}

theorem triggerBulkRefund_ensures [RegistryApi Registry] {batchSize : Nat} :
    Ensures (triggerBulkRefund env eventId batchSize) world fun _ next =>
      Does host (windowChange host eventId (bulkItems env world eventId batchSize)) world next ∧
        ∀ item ∈ bulkItems env world eventId batchSize, 0 ≤ item.refund := by
  simp only [triggerBulkRefund, setBulkRefundIndex, ensures_bind, ensures_checks, ensures_getEvent,
    ensures_require, ensures_get, ensures_ite, ensures_pure]
  intro _ _ _ event _ _ _
  refine ⟨fun past => ?_, fun _ _ => ?_⟩
  · have none : bulkItems env world eventId batchSize = [] := by
      rw [bulkItems, bulkWindow, window_of_length_le _ past, selectedAmong]
    rw [none]
    exact ⟨windowChange_nil eventId, List.forall_mem_nil _⟩
  · refine refundWindow_ensures.mono ?_
    rintro totals middle ⟨does, nonneg⟩
    rw [ensures_modify]
    exact ⟨does.then_nothing (.withSettings _), nonneg⟩

/-- The percentage a partial refund pays: the caller's in the first batch, the stored one
afterwards. -/
def activePercentage (world : World Registry) (eventId : EventId) (percentageBps : Nat) : Nat :=
  if partialRefundIndex world eventId = 0 then percentageBps
  else partialRefundPercentage world eventId

/-- The payments at which the next partial refund of an event looks. -/
def partialWindow (world : World Registry) (eventId : EventId) (batchSize : Nat) :
    List PaymentId :=
  let ids := world.tickets.getEventPayments eventId
  let start := partialRefundIndex world eventId
  window ids start (min (start + batchSize) ids.length)

/-- The payments of the next partial refund of an event. -/
def partialItems (world : World Registry) (eventId : EventId) (percentageBps batchSize : Nat) :
    List BatchItem :=
  selectedAmong (partialItem (activePercentage world eventId percentageBps)) world.tickets
    (partialWindow world eventId batchSize)

variable {percentageBps : Nat}

/-- Locking the percentage of a first batch makes it the active one. -/
theorem lockPercentage_ensures (host : Host) :
    Ensures (lockPercentage eventId (partialRefundIndex world eventId) percentageBps) world
        fun _ next =>
      Does host .nothing world next ∧
        partialRefundPercentage next eventId = activePercentage world eventId percentageBps := by
  simp only [lockPercentage, setPartialRefundPercentage, ensures_rules]
  refine ⟨fun first => ⟨.withSettings _, ?_⟩, fun later => ⟨Does.refl world, ?_⟩⟩
  · simp [partialRefundPercentage, activePercentage, World.withSettings, first]
  · rw [activePercentage, if_neg later]

theorem issuePartialRefund_ensures [RegistryApi Registry] {batchSize : Nat} :
    Ensures (issuePartialRefund env eventId percentageBps batchSize) world fun _ next =>
      Does host (windowChange host eventId (partialItems world eventId percentageBps batchSize))
          world next ∧
        ∀ item ∈ partialItems world eventId percentageBps batchSize, 0 ≤ item.refund := by
  simp only [issuePartialRefund, ensures_rules, ensures_checks, ensures_getEvent]
  intro _ _ _ _ event _ _
  refine ⟨fun past => ?_, fun _ => ?_⟩
  · have none : partialItems world eventId percentageBps batchSize = [] := by
      rw [partialItems, partialWindow, window_of_length_le _ past, selectedAmong]
    have nothing : Does host _ world world := windowChange_nil eventId
    rw [none]
    simp only [setPartialRefundPercentage, setPartialRefundIndex, ensures_rules]
    exact ⟨fun _ => ⟨(nothing.then_nothing (.withSettings _)).then_nothing (.withSettings _),
      List.forall_mem_nil _⟩, fun _ => ⟨nothing, List.forall_mem_nil _⟩⟩
  · refine (lockPercentage_ensures host).mono ?_
    rintro _ middle ⟨lock, percentage⟩ _
    rw [percentage]
    refine refundWindow_ensures.mono ?_
    rintro totals next ⟨does, nonneg⟩
    rw [lock.tickets] at does nonneg
    have all := lock.after_nothing does
    simp only [setPartialRefundPercentage, setPartialRefundIndex, ensures_rules]
    exact ⟨fun _ => ⟨((all.then_nothing (.withSettings _)).then_nothing
      (.withSettings _)).then_nothing (.withSettings _), nonneg⟩,
      fun _ => ⟨all.then_nothing (.withSettings _), nonneg⟩⟩

/-- The payments of a refund cascade. -/
def cascadeItems (env : Env host) (world : World Registry) (eventId : EventId) :
    List BatchItem :=
  selectedAmong (bulkItem env.timestamp) world.tickets (world.tickets.getEventPayments eventId)

/-- The postings of one turn of the cascade. -/
@[simp]
def cascadeLines (host : Host) (eventId : EventId) (item : BatchItem) : List (Posting Account) :=
  (.held item.payment.tokenAddress,
      if item.payment.buyerAddress = host.contract then 0 else -item.refund) ::
    (World.noted [.refunded item.paymentId] item.refund ++
      unbookLines eventId item.payment item.refund item.organizerBack)

def cascadeChange (host : Host) (eventId : EventId) (items : List BatchItem) : Change where
  lines := items.flatMap (cascadeLines host eventId)
  tickets := storeRecords items

@[simp]
theorem posted_cascadeChange_organizer {eventId other : EventId} :
    posted (cascadeChange host eventId items).lines (.organizer other) =
      if eventId = other then -organizerTotal items else 0 := by
  by_cases same : eventId = other
  · rw [if_pos same]
    exact posted_items_neg fun item _ => by simp [same]
  · rw [if_neg same]
    exact posted_items_zero (by simp [same])

theorem cascadeTurn_turns :
    Turns host (bulkItem env.timestamp) (cascadeLines host eventId) (fun count _ => count + 1)
      (cascadeTurn env eventId : _ → _ → Entry Registry _) := by
  intro count paymentId world
  rw [cascadeTurn, ensures_bind, ensures_get]
  cases world.tickets.getPayment paymentId with
  | none =>
    rw [ensures_pure]
    exact ⟨rfl, rfl⟩
  | some payment =>
    simp only [ensures_rules, ensures_payOut, Option.bind_some, bulkItem]
    refine ⟨fun confirmed allowed => ?_, fun other => ?_⟩
    · rw [if_pos confirmed]
      refine (unbook_ensures host).mono ?_
      rintro _ middle ⟨booked, _, _⟩
      have paid : Does host _ world _ := Does.pay payment.tokenAddress payment.buyerAddress
        payment.amount [.refunded paymentId]
      exact ⟨(paid.posting_then_tickets (.withTickets _)).trans booked, trivial, allowed.1⟩
    · rw [if_neg other]
      exact ⟨trivial, trivial⟩

theorem triggerDisputeRefundCascade_ensures [RegistryApi Registry] :
    Ensures (triggerDisputeRefundCascade env eventId) world fun _ next =>
      Does host (cascadeChange host eventId (cascadeItems env world eventId)) world next ∧
        (∀ item ∈ cascadeItems env world eventId, 0 ≤ item.refund) ∧
        RegistryApi.getDispute world.registry eventId = some .resolvedBuyer := by
  simp only [triggerDisputeRefundCascade, requireRegistry, ensures_rules, ensures_checks]
  intro _ _ _ dispute found resolved
  refine (cascadeTurn_turns.foldlM _ 0 world).mono ?_
  rintro _ next ⟨does, _, nonneg⟩
  exact ⟨does, nonneg, resolved ▸ found⟩

end Agora.TicketPayment

import MandatePlane.ControlPlane
import MandatePlane.OperationSessions

/-!
# Webhook deliveries, statement by statement

A delivery looks its record up and flushes it, looks the transaction, the operation and
the mandate up without a lock, sends the UPDATE of the mandate's counters, and flushes
everything else (the operation's status, the transaction, the event, the record) with
its commit.

The event of a delivery is what its body says before any lookup.  By itself, the program
is the webhook endpoint.
-/

namespace MandatePlane.DeliverySessions

open DomainModel KeyedTable JsonValue HostEnvironment StateMachine WebhookRoutes HandlerPostings
open ControlPlane ReadCommitted OperationSessions

/-! ### What the body asks for -/

/-- An event that settles the operation of an order, with what else of it is stored. -/
inductive SettlingEvent where
  | captured (eventType orderId : String) (paymentRef : Json)
  | failed (eventType orderId : String) (paymentEntity : Json)

def SettlingEvent.orderId : SettlingEvent → String
  | captured _ orderId _ => orderId
  | failed _ orderId _ => orderId

def SettlingEvent.target : SettlingEvent → OperationStatus
  | captured _ _ _ => .succeeded
  | failed _ _ _ => .failed

/-- An event that one of the domain handlers looks up: by the order or the payment it names. -/
inductive DomainEvent where
  | settling (e : SettlingEvent)
  | refund (paymentId : String) (amount : Json)

def capturedQuery (env : Platform) (payload : Json) (eventType : String) :
    Except WebhookFault (Option DomainEvent) := do
  let (orderId, paymentRef) ← capturedReferences payload
  if !orderId.truthy then return none
  else return some (.settling (.captured eventType (← queryText env orderId) paymentRef))

def failedQuery (env : Platform) (payload : Json) (eventType : String) :
    Except WebhookFault (Option DomainEvent) := do
  let (paymentEntity, orderId) ← failedReferences payload
  if !orderId.truthy then return none
  else return some (.settling (.failed eventType (← queryText env orderId) paymentEntity))

def refundQuery (env : Platform) (payload : Json) : Except WebhookFault (Option DomainEvent) := do
  let (paymentId, amount) ← refundReferences payload
  if !paymentId.truthy then return none
  else return some (.refund (← queryText env paymentId) amount)

/-- `_process_domain_webhook_event` up to the first query. -/
def domainQuery (env : Platform) (eventType eventData : Json) :
    Except WebhookFault (Option DomainEvent) := do
  let payload ← getValue eventData "payload" (.obj [])
  match eventType with
  | .str eventType =>
    if eventType = "order.paid" ∨ eventType = "payment.captured" then
      capturedQuery env payload eventType
    else if eventType = "payment.failed" then failedQuery env payload eventType
    else if eventType = "refund.processed" then refundQuery env payload
    else return none
  | _ => return none

/-- The transactions an event is looked up by. -/
def DomainEvent.rows (e : DomainEvent) (s : Store) : List Transaction :=
  match e with
  | .settling e => s.transactionsByOrder e.orderId
  | .refund paymentId _ => s.transactionsByPayment paymentId

/-- What a settling event does with the operation it has found. -/
def settleFound (env : Platform) (e : SettlingEvent) (tx : Transaction) (op : FinancialOperation)
    (s : Store) : Except WebhookFault (Store × List Event) :=
  match e with
  | .captured eventType orderId paymentRef =>
    if op.status = .succeeded then .ok (s, [])
    else do
      (validateTransition op.status .succeeded s!"Webhook event: {eventType}").mapError .raised
      return capture op eventType orderId (← capturedPaymentId env paymentRef tx) s
  | .failed eventType orderId paymentEntity =>
    if !op.status.inFlight then .ok (s, [])
    else do return failPayment op eventType orderId (← failureMessage env paymentEntity) s

/-- What a refund does with the operation it has found. -/
def refundFound (env : Platform) (amount : Json) (op : FinancialOperation) (s : Store) :
    Except WebhookFault (Store × List Event) :=
  match s.mandates.find? op.mandateId with
  | none => .ok (s, [])
  | some mandate => do
    let committed ← (env.minus mandate.currentAggregateSpend amount).mapError .ofSql
    return (s.updateMandate mandate.id (Mandate.withCommitted committed)
        (Mandate.withCommitted_key committed),
      [.credited mandate.id (mandate.currentAggregateSpend - committed)])

def handleFound (env : Platform) (e : DomainEvent) (tx : Transaction) (op : FinancialOperation)
    (s : Store) : Except WebhookFault (Store × List Event) :=
  match e with
  | .settling e => settleFound env e tx op s
  | .refund _ amount => refundFound env amount op s

/-- What a domain handler does with its event. -/
def handleEvent (env : Platform) (e : DomainEvent) (s : Store) :
    Except WebhookFault (Store × List Event) := do
  match ← withOperation s (e.rows s) with
  | none => return (s, [])
  | some (tx, op) => handleFound env e tx op s

/-- What follows the body. -/
def handleQuery (env : Platform) (s : Store) :
    Option DomainEvent → Except WebhookFault (Store × List Event)
  | none => .ok (s, [])
  | some e => handleEvent env e s

section Split

variable {env : Platform} {payload : Json} {eventType : String} {s : Store}

theorem handlePaymentCapturedEvent_split :
    handlePaymentCapturedEvent env payload eventType s =
      capturedQuery env payload eventType >>= handleQuery env s := by
  unfold handlePaymentCapturedEvent capturedQuery
  cases capturedReferences payload with
  | error fault => rfl
  | ok refs =>
    obtain ⟨orderRef, paymentRef⟩ := refs
    simp only [bind, Except.bind]
    split
    · rfl
    · cases queryText env orderRef with
      | error fault => rfl
      | ok orderId => rfl

theorem handlePaymentFailedEvent_split :
    handlePaymentFailedEvent env payload eventType s =
      failedQuery env payload eventType >>= handleQuery env s := by
  unfold handlePaymentFailedEvent failedQuery
  cases failedReferences payload with
  | error fault => rfl
  | ok refs =>
    obtain ⟨paymentEntity, orderRef⟩ := refs
    simp only [bind, Except.bind]
    split
    · rfl
    · cases queryText env orderRef with
      | error fault => rfl
      | ok orderId => rfl

theorem handleRefundProcessedEvent_split :
    handleRefundProcessedEvent env payload s = refundQuery env payload >>= handleQuery env s := by
  unfold handleRefundProcessedEvent refundQuery
  cases refundReferences payload with
  | error fault => rfl
  | ok refs =>
    obtain ⟨paymentRef, amount⟩ := refs
    simp only [bind, Except.bind]
    split
    · rfl
    · cases queryText env paymentRef with
      | error fault => rfl
      | ok paymentId => rfl

/-- **The domain handlers** ask first and act on what they found. -/
theorem processDomainWebhookEvent_split (eventType eventData : Json) :
    processDomainWebhookEvent env eventType eventData s =
      domainQuery env eventType eventData >>= handleQuery env s := by
  unfold processDomainWebhookEvent domainQuery
  cases getValue eventData "payload" (.obj []) with
  | error fault => rfl
  | ok payload =>
    cases eventType with
    | str eventType =>
      simp only [bind, Except.bind]
      by_cases hcaptured : eventType = "order.paid" ∨ eventType = "payment.captured"
      · rw [if_pos hcaptured, if_pos hcaptured]
        exact handlePaymentCapturedEvent_split
      rw [if_neg hcaptured, if_neg hcaptured]
      by_cases hfailed : eventType = "payment.failed"
      · rw [if_pos hfailed, if_pos hfailed]
        exact handlePaymentFailedEvent_split
      rw [if_neg hfailed, if_neg hfailed]
      by_cases hrefund : eventType = "refund.processed"
      · rw [if_pos hrefund, if_pos hrefund]
        exact handleRefundProcessedEvent_split
      rw [if_neg hrefund, if_neg hrefund]
      rfl
    | null => rfl
    | bool _ => rfl
    | int _ => rfl
    | float _ _ => rfl
    | arr _ => rfl
    | obj _ => rfl

end Split

/-! ### The program -/

/-- What an accepted body says before the database is asked. -/
structure DeliveryBody where
  eventData : Json
  eventType : Json
  eventId : String

/-- The pipeline up to its first query. -/
def readBody (env : Platform) (settings : Settings) (delivery : WebhookDelivery) :
    Except Refusal DeliveryBody := do
  verifyDelivery env settings delivery
  let eventData ← orRefuse (env.jsonLoads delivery.rawBody) (.http 400 "Malformed JSON payload")
  let givenId ← bodyAttribute eventData "event_id" .null
  let eventId ← bodyText env (givenId.orElse (.str delivery.freshEventId))
  let eventType ← bodyAttribute eventData "event" (.str "unknown")
  return ⟨eventData, eventType, eventId⟩

/-- A settlement that waits for its flush, with what its UPDATE has moved. -/
structure Settlement where
  event : SettlingEvent
  tx : Transaction
  op : FinancialOperation
  dReserved : ℤ
  dCommitted : ℤ

inductive DeliveryPoint where
  | receive
  | record (body : DeliveryBody) (existing : Option WebhookEvent)
  | transaction (r : WebhookEvent) (e : DomainEvent)
  | operation (r : WebhookEvent) (e : DomainEvent) (tx : Transaction)
  | mandate (r : WebhookEvent) (e : SettlingEvent) (tx : Transaction) (op : FinancialOperation)
  | budget (r : WebhookEvent) (e : SettlingEvent) (tx : Transaction) (op : FinancialOperation)
      (mandateId : String) (covered : Bool)
  | refundMandate (r : WebhookEvent) (amount : Json) (op : FinancialOperation)
  | refundBudget (r : WebhookEvent) (amount : Json) (mandateId : String)
  | flush (r : WebhookEvent) (settled : Option Settlement)
  | fault (r : WebhookEvent) (text : String)
  | finish (answer : WebhookAnswer) (settled : Option Settlement)
  | returned (answer : WebhookAnswer)
  | raised (refusal : Refusal)
  | refused (refusal : Refusal)

/-- The UPDATE of the record that was read, with the count computed from it. -/
def countAttempt (existing row : WebhookEvent) : WebhookEvent :=
  { row with status := "PROCESSING", processingAttempts := existing.processingAttempts + 1 }

def insertRecord (record : WebhookEvent) (s : Store) : Store :=
  { s with webhookEvents := (s.webhookEvents.insert record).getD s.webhookEvents }

def closeRecord (r : WebhookEvent) (s : Store) : Store :=
  { s with
    webhookEvents := s.webhookEvents.modify r.eventId Record.succeeded Record.succeeded_key }

def faultRecord (r : WebhookEvent) (text : String) (s : Store) : Store :=
  { s with
    webhookEvents :=
      s.webhookEvents.modify r.eventId (Record.faulted text) (Record.faulted_key text) }

/-- After a fault in the domain handler: it is recorded, or the transaction can only roll back. -/
def faulted (r : WebhookEvent) : WebhookFault → DeliveryPoint
  | .raised text => .fault r text
  | .aborted => .raised .serverError

/-- The record is flushed; the domain handler reads its event. -/
def startEvent (env : Platform) (body : DeliveryBody) (r : WebhookEvent) : DeliveryPoint :=
  match domainQuery env body.eventType body.eventData with
  | .error fault => faulted r fault
  | .ok none => .flush r none
  | .ok (some e) => .transaction r e

/-- The INSERT of a new record, which waits for an uncommitted record of the same event. -/
def recordStatement (env : Platform) (delivery : WebhookDelivery) (body : DeliveryBody)
    (eventType : String) : Stmt Store Row Event DeliveryPoint :=
  let record := newRecord env delivery body.eventId eventType body.eventData
  .exec (fun _ => [.webhookEvent body.eventId]) fun s =>
    match s.webhookEvents.insert record with
    | none => ⟨id, [], .raised .serverError⟩
    | some _ => ⟨insertRecord record, [], startEvent env body record⟩

/-- The operation is loaded and its status is looked at. -/
def judge (r : WebhookEvent) (e : SettlingEvent) (tx : Transaction) (op : FinancialOperation) :
    DeliveryPoint :=
  match e with
  | .captured eventType _ _ =>
    if op.status = .succeeded then .flush r none
    else
      match validateTransition op.status .succeeded s!"Webhook event: {eventType}" with
      | .error text => .fault r text
      | .ok _ => .mandate r e tx op
  | .failed _ _ _ => if op.status.inFlight then .mandate r e tx op else .flush r none

/-- The mandate is loaded: a failure that is not covered updates nothing. -/
def weigh (r : WebhookEvent) (e : SettlingEvent) (tx : Transaction) (op : FinancialOperation)
    (mandate : Mandate) : DeliveryPoint :=
  let covered : Bool := mandate.reservedSpend ≥ op.amount
  match e, covered with
  | .failed _ _ _, false => .flush r (some ⟨e, tx, op, 0, 0⟩)
  | _, covered => .budget r e tx op mandate.id covered

/-- What the UPDATE moves, in `reserved_spend` and in `current_aggregate_spend`. -/
def moved (e : SettlingEvent) (covered : Bool) (amount : ℤ) : ℤ × ℤ :=
  match e, covered with
  | .captured _ _ _, true => (-amount, amount)
  | .captured _ _ _, false => (0, amount)
  | .failed _ _ _, true => (-amount, 0)
  | .failed _ _ _, false => (0, 0)

/-- The UPDATE of the counters. -/
def moveBudget (e : SettlingEvent) (covered : Bool) (mandateId : String) (amount : ℤ) (s : Store) :
    Store :=
  match e, covered with
  | .captured _ _ _, true => s.updateMandate mandateId (Mandate.commitReserved amount)
  | .captured _ _ _, false => s.updateMandate mandateId (Mandate.commitUnreserved amount)
  | .failed _ _ _, true => s.updateMandate mandateId (Mandate.release amount)
  | .failed _ _ _, false => s

/-- `current_aggregate_spend - refund_amount` where the database can subtract. -/
def takeOff (env : Platform) (amount : Json) (m : Mandate) : Mandate :=
  match env.minus m.currentAggregateSpend amount with
  | .ok committed => m.withCommitted committed
  | .error _ => m

theorem key_takeOff (env : Platform) (amount : Json) (m : Mandate) :
    Keyed.key (takeOff env amount m) = Keyed.key m := by
  unfold takeOff
  split <;> rfl

/-- The column an event brings: a payment id, or the text of the failure. -/
def column (env : Platform) : SettlingEvent → Except WebhookFault (Option String)
  | .captured _ _ paymentRef =>
    if paymentRef.truthy then (columnText env paymentRef).map some else .ok none
  | .failed _ _ paymentEntity => failureMessage env paymentEntity

/-- The flush of a settlement: the operation, its transaction, the event. -/
def settleRows (settled : Settlement) (column : Option String) (s : Store) : Store :=
  match settled.event with
  | .captured eventType orderId _ =>
    ((s.updateOperation settled.op.id (.moveTo .succeeded)
      (FinancialOperation.moveTo_key .succeeded)).updateTransactions
      (fun tx => tx.gatewayOrderId = some orderId)
      fun tx => { tx with
        status := .captured
        gatewayPaymentId := column.orElse fun _ => tx.gatewayPaymentId }).audit
      (settlementAudit .budgetCommitted settled.op .succeeded eventType orderId)
  | .failed eventType orderId _ =>
    ((s.updateOperation settled.op.id (.moveToWith .failed column)
      (FinancialOperation.moveToWith_key .failed column)).updateTransactions
      (fun tx => tx.gatewayOrderId = some orderId) fun tx => { tx with status := .failed }).audit
      (settlementAudit .budgetReleased settled.op .failed eventType orderId)

/-- The observation a settlement leaves. -/
def Settlement.posted (settled : Settlement) : Event :=
  .posted settled.op settled.event.target settled.dReserved settled.dCommitted

def processedAnswer (r : WebhookEvent) : WebhookAnswer := ⟨"PROCESSED", r.eventId, none⟩

/-- The flush of a settlement, with the commit. -/
def settleStatement (env : Platform) (r : WebhookEvent) (settled : Settlement) :
    Stmt Store Row Event DeliveryPoint :=
  match column env settled.event with
  | .error _ => .rollback (.refused .serverError)
  | .ok column =>
    .exec (fun _ => [.operation settled.op.id, .transactions settled.op.id,
      .webhookEvent r.eventId]) fun _ =>
      ⟨fun s => closeRecord r (settleRows settled column s), [settled.posted],
        .finish (processedAnswer r) (some settled)⟩

/-- The statement at each point of a delivery. -/
def deliveryCode (env : Platform) (settings : Settings) (delivery : WebhookDelivery) :
    DeliveryPoint → Stmt Store Row Event DeliveryPoint
  | .receive => .look fun s =>
    match readBody env settings delivery with
    | .error refusal => .raised refusal
    | .ok body =>
      let existing := s.webhookEvents.find? body.eventId
      if existing.any (fun existing => existing.status = "PROCESSED") then
        .returned ⟨"DUPLICATE_IGNORED", body.eventId, none⟩
      else .record body existing
  | .record body (some existing) => .exec (fun _ => [.webhookEvent body.eventId]) fun _ =>
    ⟨fun s => { s with
        webhookEvents := s.webhookEvents.modify body.eventId (countAttempt existing) },
      [], startEvent env body (Record.retried existing)⟩
  | .record body none =>
    match bodyText env body.eventType with
    | .error refusal => .rollback (.refused refusal)
    | .ok eventType => recordStatement env delivery body eventType
  | .transaction r e => .look fun s =>
    match oneOrNone (e.rows s) with
    | .error fault => faulted r fault
    | .ok none => .flush r none
    | .ok (some tx) => .operation r e tx
  | .operation r e tx => .look fun s =>
    match s.operations.find? tx.operationId, e with
    | none, _ => .flush r none
    | some op, .settling e => judge r e tx op
    | some op, .refund _ amount => .refundMandate r amount op
  | .mandate r e tx op => .look fun s =>
    match s.mandates.find? op.mandateId with
    | none => .flush r (some ⟨e, tx, op, 0, 0⟩)
    | some mandate => weigh r e tx op mandate
  | .budget r e tx op mandateId covered => .exec (fun _ => [.mandate mandateId]) fun _ =>
    ⟨moveBudget e covered mandateId op.amount, [],
      .flush r (some ⟨e, tx, op, (moved e covered op.amount).1, (moved e covered op.amount).2⟩)⟩
  | .refundMandate r amount op => .look fun s =>
    match s.mandates.find? op.mandateId with
    | none => .flush r none
    | some mandate => .refundBudget r amount mandate.id
  | .refundBudget r amount mandateId => .exec (fun _ => [.mandate mandateId]) fun s =>
    match s.mandates.find? mandateId with
    | none => ⟨id, [], .flush r none⟩
    | some mandate =>
      match env.minus mandate.currentAggregateSpend amount with
      | .error fault => ⟨id, [], faulted r (.ofSql fault)⟩
      | .ok committed =>
        ⟨fun s => s.updateMandate mandateId (takeOff env amount) (key_takeOff env amount),
          [.credited mandateId (mandate.currentAggregateSpend - committed)], .flush r none⟩
  | .flush r none => .exec (fun _ => [.webhookEvent r.eventId]) fun _ =>
    ⟨closeRecord r, [], .finish (processedAnswer r) none⟩
  | .flush r (some settled) => settleStatement env r settled
  | .fault r text => .exec (fun _ => [.webhookEvent r.eventId]) fun _ =>
    ⟨faultRecord r text, [], .finish ⟨(Record.faulted text r).status, r.eventId, some text⟩ none⟩
  | .finish answer _ => .commit (.returned answer)
  | .raised refusal => .rollback (.refused refusal)
  | .returned _ => .stop
  | .refused _ => .stop

/-- How a delivery ends. -/
def deliveryAnswer : Except Refusal (Committed WebhookAnswer) → DeliveryPoint
  | .ok c => .returned c.value
  | .error refusal => .refused refusal

/-! ### A delivery by itself -/

section Solo

variable {env : Platform} {settings : Settings} {delivery : WebhookDelivery} {s : Store}
  {w : Store → Store} {r : WebhookEvent} {tx : Transaction} {op : FinancialOperation}

/-- Step 3 of the pipeline, after the domain handler. -/
def closeDelivery (r : WebhookEvent) (s : Store) :
    Except WebhookFault (Store × List Event) → Except Refusal (Committed WebhookAnswer)
  | .ok (s, events) => .ok ⟨processedAnswer r, closeRecord r s, events⟩
  | .error (.raised text) =>
    .ok ⟨⟨(Record.faulted text r).status, r.eventId, some text⟩, faultRecord r text s, []⟩
  | .error .aborted => .error .serverError

theorem settleDelivery_close (eventType eventData : Json) (r : WebhookEvent) (s : Store) :
    settleDelivery env eventType eventData r s =
      closeDelivery r s (processDomainWebhookEvent env eventType eventData s) := by
  unfold settleDelivery
  cases processDomainWebhookEvent env eventType eventData s with
  | ok done => rfl
  | error fault =>
    cases fault with
    | raised text => rfl
    | aborted => rfl

/-- From a point on, the session does what is left of the endpoint. -/
def Leaves (env : Platform) (settings : Settings) (delivery : WebhookDelivery) (s : Store)
    (p : DeliveryPoint) (w : Store → Store) (answer : Except Refusal (Committed WebhookAnswer)) :
    Prop :=
  Ends (deliveryCode env settings delivery) s p w (outcome s answer).2 (outcome s answer).1
    (deliveryAnswer answer)

theorem leaves_faulted (fault : WebhookFault) :
    Leaves env settings delivery s (faulted r fault) w (closeDelivery r (w s) (.error fault)) := by
  cases fault with
  | raised text => exact .ran rfl rfl (.commit rfl (.stop rfl)) rfl
  | aborted => exact .rollback rfl (.stop rfl)

theorem leaves_ignored :
    Leaves env settings delivery s (.flush r none) w (closeDelivery r (w s) (.ok (w s, []))) :=
  .ran rfl rfl (.commit rfl (.stop rfl)) rfl

/-- The flush and the commit of a settlement. -/
theorem leaves_settled {settled : Settlement} {written : Option String}
    (hcolumn : column env settled.event = .ok written) {done : Store × List Event}
    (hdone : done = (settleRows settled written (w s), [settled.posted])) :
    Leaves env settings delivery s (.flush r (some settled)) w
      (closeDelivery r (w s) (.ok done)) := by
  subst hdone
  have hcode : deliveryCode env settings delivery (.flush r (some settled)) =
      .exec (fun _ => [.operation settled.op.id, .transactions settled.op.id,
        .webhookEvent r.eventId]) fun _ =>
        ⟨fun s => closeRecord r (settleRows settled written s), [settled.posted],
          .finish (processedAnswer r) (some settled)⟩ := by
    show settleStatement env r settled = _
    unfold settleStatement
    rw [hcolumn]
  exact .ran hcode rfl (.commit rfl (.stop rfl)) rfl

/-- A flush that the database rejects. -/
theorem leaves_rejected {settled : Settlement} {fault : WebhookFault}
    (hcolumn : column env settled.event = .error fault) :
    Leaves env settings delivery s (.flush r (some settled)) w (.error .serverError) := by
  have hcode : deliveryCode env settings delivery (.flush r (some settled)) =
      .rollback (.refused .serverError) := by
    show settleStatement env r settled = _
    unfold settleStatement
    rw [hcolumn]
  exact .rollback hcode (.stop rfl)

/-- What the domain handler reads of the event is a dictionary. -/
def SettlingEvent.WellRead : SettlingEvent → Prop
  | .captured _ _ _ => True
  | .failed _ _ paymentEntity => ∃ fields, paymentEntity = .obj fields

/-- A column is refused by the database only. -/
theorem column_error {e : SettlingEvent} (hread : e.WellRead) {fault : WebhookFault}
    (h : column env e = .error fault) : fault = .aborted := by
  have htext {value : Json} {f : WebhookFault} (h : columnText env value = .error f) :
      f = .aborted := by
    unfold columnText at h
    cases hbind : env.bindText value with
    | ok text =>
      rw [hbind] at h
      cases h
    | error _ =>
      rw [hbind] at h
      cases h
      rfl
  have hmap {value : Json} (h : (columnText env value).map some = .error fault) :
      fault = .aborted := by
    cases hcolumn : columnText env value with
    | ok text =>
      rw [hcolumn] at h
      cases h
    | error f =>
      rw [hcolumn] at h
      cases h
      exact htext hcolumn
  cases e with
  | captured eventType orderId paymentRef =>
    simp only [column] at h
    split at h
    · exact hmap h
    · cases h
  | failed eventType orderId paymentEntity =>
    obtain ⟨fields, rfl⟩ := hread
    simp only [column, failureMessage, getValue, Json.get_obj, Except.mapError, bind, Except.bind] at h
    split at h
    · cases h
    · exact hmap h

/-- What is written of a transaction depends on the rows the order has. -/
theorem updateTransactions_congr {s : Store} {orderId : String} {f g : Transaction → Transaction}
    (h : ∀ tx ∈ s.transactionsByOrder orderId, f tx = g tx) :
    s.updateTransactions (fun tx => tx.gatewayOrderId = some orderId) f =
      s.updateTransactions (fun tx => tx.gatewayOrderId = some orderId) g := by
  unfold Store.updateTransactions
  congr 1
  refine List.map_congr_left fun tx hm => ?_
  by_cases horder : tx.gatewayOrderId = some orderId
  · simp only [horder, decide_true, if_true]
    exact h tx (List.mem_filter.mpr ⟨hm, decide_eq_true horder⟩)
  · simp only [horder, decide_false, Bool.false_eq_true, if_false]

theorem moveBudget_transactions (e : SettlingEvent) (covered : Bool) (mandateId : String)
    (amount : ℤ) (s : Store) :
    (moveBudget e covered mandateId amount s).transactions = s.transactions := by
  cases e <;> cases covered <;> rfl

/-- The writes of a capture are those of its session, given the budget write. -/
theorem capture_eq {eventType orderId : String} {paymentRef : Json} {written : Option String}
    {budget : Store} {dReserved dCommitted : ℤ} (hrows : s.transactionsByOrder orderId = [tx])
    (hbudget : captureBudget op s = (budget, .posted op .succeeded dReserved dCommitted))
    (hkept : budget.transactions = s.transactions) :
    capture op eventType orderId (written.orElse fun _ => tx.gatewayPaymentId) s =
      (settleRows ⟨.captured eventType orderId paymentRef, tx, op, dReserved, dCommitted⟩ written
        budget, [.posted op .succeeded dReserved dCommitted]) := by
  have hsame : ∀ row ∈ (budget.updateOperation op.id (.moveTo .succeeded)).transactionsByOrder
      orderId,
      ({ row with
        status := .captured
        gatewayPaymentId := written.orElse fun _ => tx.gatewayPaymentId } : Transaction) =
      { row with
        status := .captured
        gatewayPaymentId := written.orElse fun _ => row.gatewayPaymentId } := by
    intro row hm
    have hm' : row ∈ s.transactionsByOrder orderId := by
      unfold Store.transactionsByOrder at hm ⊢
      rw [← hkept]
      exact hm
    rw [hrows] at hm'
    rw [List.mem_singleton.mp hm']
  unfold capture
  rw [hbudget]
  dsimp only
  rw [updateTransactions_congr hsame]
  rfl

theorem failPayment_eq {eventType orderId : String} {paymentEntity : Json} {written : Option String}
    {budget : Store} {dReserved dCommitted : ℤ}
    (hbudget : failureBudget op s = (budget, .posted op .failed dReserved dCommitted)) :
    failPayment op eventType orderId written s =
      (settleRows ⟨.failed eventType orderId paymentEntity, tx, op, dReserved, dCommitted⟩ written
        budget, [.posted op .failed dReserved dCommitted]) := by
  unfold failPayment
  rw [hbudget]
  rfl

/-- The budget write of a settling event. -/
def settlingBudget (e : SettlingEvent) (op : FinancialOperation) (s : Store) : Store × Event :=
  match e with
  | .captured _ _ _ => captureBudget op s
  | .failed _ _ _ => failureBudget op s

/-- From the lookup of the mandate to the flush. -/
theorem leaves_budget {e : SettlingEvent} {answer : Except Refusal (Committed WebhookAnswer)}
    (hflush : ∀ w' dReserved dCommitted,
      settlingBudget e op (w s) = (w' s, .posted op e.target dReserved dCommitted) →
      (w' s).transactions = (w s).transactions →
      Leaves env settings delivery s (.flush r (some ⟨e, tx, op, dReserved, dCommitted⟩)) w'
        answer) :
    Leaves env settings delivery s (.mandate r e tx op) w answer := by
  cases hmandate : (w s).mandates.find? op.mandateId with
  | none =>
    have hbudget : settlingBudget e op (w s) = (w s, .posted op e.target 0 0) := by
      cases e <;> simp only [settlingBudget, captureBudget, failureBudget, hmandate] <;> rfl
    refine .ran rfl (by simp only [hmandate]; rfl) ?_ (List.nil_append _).symm
    exact hflush _ 0 0 hbudget rfl
  | some mandate =>
    refine .ran rfl (by simp only [hmandate]; rfl) ?_ (List.nil_append _).symm
    by_cases hcovered : mandate.reservedSpend ≥ op.amount
    · have hbudget : settlingBudget e op (w s) = (moveBudget e true mandate.id op.amount (w s),
          .posted op e.target (moved e true op.amount).1 (moved e true op.amount).2) := by
        cases e <;>
          simp only [settlingBudget, captureBudget, failureBudget, hmandate, if_pos hcovered] <;> rfl
      have hpoint : weigh r e tx op mandate = .budget r e tx op mandate.id true := by
        cases e <;> simp only [weigh, hcovered, decide_true]
      rw [hpoint]
      refine .ran rfl rfl ?_ (List.nil_append _).symm
      exact hflush _ _ _ hbudget (moveBudget_transactions _ _ _ _ _)
    · have hbudget : settlingBudget e op (w s) = (moveBudget e false mandate.id op.amount (w s),
          .posted op e.target (moved e false op.amount).1 (moved e false op.amount).2) := by
        cases e <;>
          simp only [settlingBudget, captureBudget, failureBudget, hmandate, if_neg hcovered] <;> rfl
      cases e with
      | captured eventType orderId paymentRef =>
        have hpoint : weigh r (.captured eventType orderId paymentRef) tx op mandate =
            .budget r (.captured eventType orderId paymentRef) tx op mandate.id false := by
          simp only [weigh, hcovered, decide_false]
        have hkept := moveBudget_transactions (.captured eventType orderId paymentRef) false
          mandate.id op.amount (w s)
        rw [hpoint]
        refine .ran rfl rfl ?_ (List.nil_append _).symm
        exact hflush _ _ _ hbudget hkept
      | failed eventType orderId paymentEntity =>
        have hpoint : weigh r (.failed eventType orderId paymentEntity) tx op mandate =
            .flush r (some ⟨.failed eventType orderId paymentEntity, tx, op, 0, 0⟩) := by
          simp only [weigh, hcovered, decide_false]
        rw [hpoint]
        exact hflush _ 0 0 hbudget rfl

/-- What a settling event writes, with its column. -/
def settleAs (e : SettlingEvent) (tx : Transaction) (op : FinancialOperation)
    (written : Option String) (s : Store) : Store × List Event :=
  match e with
  | .captured eventType orderId _ =>
    capture op eventType orderId (written.orElse fun _ => tx.gatewayPaymentId) s
  | .failed eventType orderId _ => failPayment op eventType orderId written s

theorem leaves_mandate {e : SettlingEvent} (hread : e.WellRead)
    (hrows : (w s).transactionsByOrder e.orderId = [tx]) :
    Leaves env settings delivery s (.mandate r e tx op) w (closeDelivery r (w s)
      ((column env e).map fun written => settleAs e tx op written (w s))) := by
  refine leaves_budget fun w' dReserved dCommitted hbudget hkept => ?_
  cases hcolumn : column env e with
  | error fault =>
    rw [column_error hread hcolumn]
    exact leaves_rejected hcolumn
  | ok written =>
    have hclose (done : Store × List Event) :
        closeDelivery r (w s) (.ok done) = closeDelivery r (w' s) (.ok done) := rfl
    show Leaves env settings delivery s _ w' (closeDelivery r (w s) (.ok _))
    rw [hclose]
    refine leaves_settled hcolumn ?_
    cases e with
    | captured eventType orderId paymentRef => exact capture_eq hrows hbudget hkept
    | failed eventType orderId paymentEntity => exact failPayment_eq hbudget

theorem capturedPaymentId_column (eventType orderId : String) (paymentRef : Json)
    (tx : Transaction) :
    capturedPaymentId env paymentRef tx =
      (column env (.captured eventType orderId paymentRef)).map
        fun written => written.orElse fun _ => tx.gatewayPaymentId := by
  simp only [capturedPaymentId, column]
  split
  · cases columnText env paymentRef with
    | error fault => rfl
    | ok text => rfl
  · rfl

/-- From the lookup of the operation to the end. -/
theorem leaves_judged {e : SettlingEvent} (hread : e.WellRead)
    (hrows : (w s).transactionsByOrder e.orderId = [tx]) :
    Leaves env settings delivery s (judge r e tx op) w
      (closeDelivery r (w s) (settleFound env e tx op (w s))) := by
  cases e with
  | captured eventType orderId paymentRef =>
    simp only [judge, settleFound]
    by_cases hsucceeded : op.status = .succeeded
    · rw [if_pos hsucceeded, if_pos hsucceeded]
      exact leaves_ignored
    · rw [if_neg hsucceeded, if_neg hsucceeded]
      cases validateTransition op.status .succeeded s!"Webhook event: {eventType}" with
      | error text => exact leaves_faulted (.raised text)
      | ok _ =>
        have hleft := @leaves_mandate env settings delivery s w r tx op _ hread hrows
        rw [capturedPaymentId_column eventType orderId]
        cases hcolumn : column env (.captured eventType orderId paymentRef) with
        | error fault =>
          rw [hcolumn] at hleft
          exact hleft
        | ok written =>
          rw [hcolumn] at hleft
          exact hleft
  | failed eventType orderId paymentEntity =>
    simp only [judge, settleFound]
    cases hflight : op.status.inFlight with
    | false => exact leaves_ignored
    | true =>
      have hleft := @leaves_mandate env settings delivery s w r tx op _ hread hrows
      have hmessage : failureMessage env paymentEntity =
        column env (.failed eventType orderId paymentEntity) := rfl
      rw [hmessage]
      cases hcolumn : column env (.failed eventType orderId paymentEntity) with
      | error fault =>
        rw [hcolumn] at hleft
        exact hleft
      | ok written =>
        rw [hcolumn] at hleft
        exact hleft

/-- From the lookup of a refund's mandate to the end. -/
theorem leaves_refund (amount : Json) :
    Leaves env settings delivery s (.refundMandate r amount op) w
      (closeDelivery r (w s) (refundFound env amount op (w s))) := by
  cases hmandate : (w s).mandates.find? op.mandateId with
  | none =>
    have hfound : refundFound env amount op (w s) = .ok (w s, []) := by
      rw [refundFound, hmandate]
    rw [hfound]
    refine .ran rfl (by simp only [hmandate]; rfl) ?_ (List.nil_append _).symm
    exact leaves_ignored
  | some mandate =>
    refine .ran rfl (by simp only [hmandate]; rfl) ?_ (List.nil_append _).symm
    have hself : (w s).mandates.find? mandate.id = some mandate :=
      Table.find?_of_mem (Table.mem_of_find? hmandate)
    cases hminus : env.minus mandate.currentAggregateSpend amount with
    | error fault =>
      have hfound : refundFound env amount op (w s) = .error (.ofSql fault) := by
        rw [refundFound, hmandate]
        simp only [hminus]
        rfl
      rw [hfound]
      refine .ran rfl (by simp only [Function.comp, id, hself, hminus]; rfl) ?_
        (List.nil_append _).symm
      exact leaves_faulted _
    | ok committed =>
      have hfound : refundFound env amount op (w s) =
          .ok ((w s).updateMandate mandate.id (Mandate.withCommitted committed),
            [.credited mandate.id (mandate.currentAggregateSpend - committed)]) := by
        rw [refundFound, hmandate]
        simp only [hminus]
        rfl
      have hwrite : (w s).mandates.modify mandate.id (takeOff env amount) (key_takeOff env amount) =
          (w s).mandates.modify mandate.id (Mandate.withCommitted committed)
            (fun _ => key_kept rfl) := by
        refine Table.modify_congr hself ?_
        unfold takeOff
        rw [hminus]
      have hstore : closeRecord r ((w s).updateMandate mandate.id (takeOff env amount)
            (key_takeOff env amount)) =
          closeRecord r ((w s).updateMandate mandate.id (Mandate.withCommitted committed)) := by
        unfold Store.updateMandate
        rw [hwrite]
      rw [hfound]
      refine .ran rfl (by simp only [Function.comp, id, hself, hminus]; rfl) ?_ rfl
      refine .ran rfl rfl (.commit rfl ?_) rfl
      show Ends _ (closeRecord r _) _ _ _ (closeRecord r _) _
      rw [← hstore]
      exact .stop rfl

/-- **From the first lookup to the end.** -/
theorem leaves_event {e : DomainEvent} (hread : ∀ e', e = .settling e' → e'.WellRead) :
    Leaves env settings delivery s (.transaction r e) w
      (closeDelivery r (w s) (handleEvent env e (w s))) := by
  unfold handleEvent withOperation
  cases hrows : oneOrNone (e.rows (w s)) with
  | error fault =>
    refine .ran rfl (by simp only [hrows]; rfl) ?_ (List.nil_append _).symm
    exact leaves_faulted fault
  | ok found =>
  cases found with
  | none =>
    refine .ran rfl (by simp only [hrows]; rfl) ?_ (List.nil_append _).symm
    exact leaves_ignored
  | some tx =>
  refine .ran rfl (by simp only [hrows]; rfl) ?_ (List.nil_append _).symm
  cases hop : (w s).operations.find? tx.operationId with
  | none =>
    refine .ran rfl (by simp only [Function.comp, id, hop]; rfl) ?_ (List.nil_append _).symm
    simp only [bind, Except.bind, pure, Except.pure, hop, Option.map_none]
    exact leaves_ignored
  | some op =>
  simp only [bind, Except.bind, pure, Except.pure, hop, Option.map_some, handleFound]
  cases e with
  | settling e =>
    refine .ran rfl (by simp only [Function.comp, id, hop]; rfl) ?_ (List.nil_append _).symm
    exact leaves_judged (hread e rfl) (oneOrNone_eq_ok.mp hrows)
  | refund paymentId amount =>
    refine .ran rfl (by simp only [Function.comp, id, hop]; rfl) ?_ (List.nil_append _).symm
    exact leaves_refund amount

theorem domainQuery_wellRead {eventType eventData : Json} {e : SettlingEvent}
    (h : domainQuery env eventType eventData = .ok (some (.settling e))) : e.WellRead := by
  obtain ⟨payload, -, h⟩ := bind_eq_ok.mp h
  have hcaptured {eventType : String}
      (h : capturedQuery env payload eventType = .ok (some (.settling e))) : e.WellRead := by
    obtain ⟨⟨orderRef, paymentRef⟩, -, h⟩ := bind_eq_ok.mp h
    dsimp only at h
    split at h
    · cases h
    · obtain ⟨orderId, -, h⟩ := bind_eq_ok.mp h
      cases h
      trivial
  have hfailed {eventType : String}
      (h : failedQuery env payload eventType = .ok (some (.settling e))) : e.WellRead := by
    obtain ⟨⟨paymentEntity, orderRef⟩, hrefs, h⟩ := bind_eq_ok.mp h
    dsimp only at h
    split at h
    · cases h
    · obtain ⟨orderId, -, h⟩ := bind_eq_ok.mp h
      cases h
      obtain ⟨entity, -, hrefs⟩ := bind_eq_ok.mp hrefs
      obtain ⟨orderRef', horder, hrefs⟩ := bind_eq_ok.mp hrefs
      cases hrefs
      cases paymentEntity with
      | obj fields => exact ⟨fields, rfl⟩
      | null => cases horder
      | bool _ => cases horder
      | int _ => cases horder
      | float _ _ => cases horder
      | str _ => cases horder
      | arr _ => cases horder
  have hrefund (h : refundQuery env payload = .ok (some (.settling e))) : e.WellRead := by
    obtain ⟨⟨paymentRef, amount⟩, -, h⟩ := bind_eq_ok.mp h
    dsimp only at h
    split at h
    · cases h
    · obtain ⟨paymentId, -, h⟩ := bind_eq_ok.mp h
      cases h
  cases eventType with
  | str eventType =>
    dsimp only at h
    split at h
    · exact hcaptured h
    · split at h
      · exact hfailed h
      · split at h
        · exact hrefund h
        · cases h
  | null => cases h
  | bool _ => cases h
  | int _ => cases h
  | float _ _ => cases h
  | arr _ => cases h
  | obj _ => cases h

/-- **From the flush of the record to the end.** -/
theorem leaves_start {body : DeliveryBody} :
    Leaves env settings delivery s (startEvent env body r) w
      (settleDelivery env body.eventType body.eventData r (w s)) := by
  rw [settleDelivery_close, processDomainWebhookEvent_split]
  unfold startEvent
  cases hquery : domainQuery env body.eventType body.eventData with
  | error fault => exact leaves_faulted fault
  | ok found =>
    cases found with
    | none => exact leaves_ignored
    | some e =>
      refine leaves_event fun e' he => ?_
      subst he
      exact domainQuery_wellRead hquery

theorem handleRazorpayWebhook_split :
    handleRazorpayWebhook env settings delivery s =
      readBody env settings delivery >>= fun body =>
        if (s.webhookEvents.find? body.eventId).any (fun existing => existing.status = "PROCESSED")
        then .ok ⟨⟨"DUPLICATE_IGNORED", body.eventId, none⟩, s, []⟩
        else recordDelivery env delivery body.eventId body.eventType body.eventData s >>=
          fun recorded => settleDelivery env body.eventType body.eventData recorded.1 recorded.2 := by
  unfold handleRazorpayWebhook readBody
  cases verifyDelivery env settings delivery with
  | error refusal => rfl
  | ok _ =>
  cases orRefuse (env.jsonLoads delivery.rawBody) (.http 400 "Malformed JSON payload") with
  | error refusal => rfl
  | ok eventData =>
  simp only [bind, Except.bind]
  cases bodyAttribute eventData "event_id" .null with
  | error refusal => rfl
  | ok givenId =>
  dsimp only
  cases bodyText env (givenId.orElse (.str delivery.freshEventId)) with
  | error refusal => rfl
  | ok eventId =>
  dsimp only
  cases bodyAttribute eventData "event" (.str "unknown") with
  | error refusal => rfl
  | ok eventType => rfl

/-- **By itself a delivery is `POST /webhooks/razorpay`.** -/
theorem ends_delivery :
    Ends (deliveryCode env settings delivery) s .receive id
      (outcome s (handleRazorpayWebhook env settings delivery s)).2
      (outcome s (handleRazorpayWebhook env settings delivery s)).1
      (deliveryAnswer (handleRazorpayWebhook env settings delivery s)) := by
  rw [handleRazorpayWebhook_split]
  cases hbody : readBody env settings delivery with
  | error refusal =>
    exact .ran rfl (by simp only [hbody]; rfl) (.rollback rfl (.stop rfl)) rfl
  | ok body =>
  simp only [bind, Except.bind]
  by_cases hprocessed : (s.webhookEvents.find? body.eventId).any
      (fun existing => existing.status = "PROCESSED") = true
  · rw [if_pos hprocessed]
    exact .ran rfl (by simp only [id, hbody, if_pos hprocessed]; rfl) (.stop rfl) rfl
  rw [if_neg hprocessed]
  refine .ran rfl (by simp only [id, hbody, if_neg hprocessed]; rfl) ?_ (List.nil_append _).symm
  cases hexisting : s.webhookEvents.find? body.eventId with
  | some existing =>
    have hcount : s.webhookEvents.modify body.eventId (countAttempt existing) (fun _ => key_kept rfl) =
        s.webhookEvents.modify body.eventId Record.retried (fun _ => key_kept rfl) :=
      Table.modify_congr hexisting rfl
    have hrecorded : recordDelivery env delivery body.eventId body.eventType body.eventData s =
        .ok (Record.retried existing,
          { s with webhookEvents := s.webhookEvents.modify body.eventId (countAttempt existing) }) := by
      rw [hcount]
      unfold recordDelivery
      rw [hexisting]
    rw [hrecorded]
    exact .ran rfl rfl leaves_start (List.nil_append _).symm
  | none =>
    cases htext : bodyText env body.eventType with
    | error refusal =>
      have hrecorded : recordDelivery env delivery body.eventId body.eventType body.eventData s =
          .error refusal := by
        unfold recordDelivery
        rw [hexisting]
        simp only [htext]
        rfl
      have hcode : deliveryCode env settings delivery (.record body none) =
          .rollback (.refused refusal) := by
        simp only [deliveryCode, htext]
      rw [hrecorded]
      exact .rollback hcode (.stop rfl)
    | ok eventType =>
      have hcode : deliveryCode env settings delivery (.record body none) =
          recordStatement env delivery body eventType := by
        simp only [deliveryCode, htext]
      cases hinsert : s.webhookEvents.insert
          (newRecord env delivery body.eventId eventType body.eventData) with
      | none =>
        have hrecorded : recordDelivery env delivery body.eventId body.eventType body.eventData s =
            .error .serverError := by
          unfold recordDelivery
          rw [hexisting]
          simp only [htext, bind, Except.bind, hinsert]
          rfl
        rw [hrecorded]
        refine .ran (e := ⟨id, [], .raised .serverError⟩) hcode ?_ (.rollback rfl (.stop rfl)) rfl
        simp only [Function.comp_apply, id_eq, hinsert]
      | some records =>
        have hrecorded : recordDelivery env delivery body.eventId body.eventType body.eventData s =
            .ok (newRecord env delivery body.eventId eventType body.eventData,
              insertRecord (newRecord env delivery body.eventId eventType body.eventData) s) := by
          unfold recordDelivery insertRecord
          rw [hexisting]
          simp only [htext, bind, Except.bind, hinsert]
          rfl
        rw [hrecorded]
        let record := newRecord env delivery body.eventId eventType body.eventData
        refine .ran (e := ⟨insertRecord record, [], startEvent env body record⟩) hcode ?_
          leaves_start (List.nil_append _).symm
        simp only [Function.comp_apply, id_eq, hinsert, record]

end Solo

end MandatePlane.DeliverySessions

import MandatePlane.RazorpayClient
import MandatePlane.StateMachine

/-!
# The webhook pipeline

Signature check, deduplication by event id, the three domain handlers and the
bookkeeping of failed deliveries.  A domain handler either returns a changed store
or ends in a `WebhookFault`: an exception the pipeline catches and records, or a
statement the database rejects, after which the final commit fails as well.  Every
exception is raised before the handler has written anything.
-/

namespace MandatePlane.WebhookRoutes

open DomainModel KeyedTable JsonValue HostEnvironment StateMachine

/-- One delivery; `freshEventId` is the id invented when the body brings none. -/
structure WebhookDelivery where
  rawBody : String
  xRazorpaySignature : String
  freshEventId : String

structure WebhookAnswer where
  status : String
  eventId : String
  error : Option String

inductive WebhookFault where
  | raised (text : String)
  | aborted

/-! ### Reading a payload -/

def WebhookFault.ofSql : SqlFault → WebhookFault
  | .refused text => .raised text
  | .aborted => .aborted

/-- `value.get(key, default)`. -/
def getValue (value : Json) (key : String) (default : Json) : Except WebhookFault Json :=
  (value.get key default).mapError .raised

/-- `payload.get(kind, {}).get("entity", {})`. -/
def entity (payload : Json) (kind : String) : Except WebhookFault Json := do
  getValue (← getValue payload kind (.obj [])) "entity" (.obj [])

/-- A text argument of a query. -/
def queryText (env : Platform) (value : Json) : Except WebhookFault String :=
  (env.bindText value).mapError .ofSql

/-- A text column written when the session flushes: a value that is no text fails the commit. -/
def columnText (env : Platform) (value : Json) : Except WebhookFault String :=
  (env.bindText value).mapError fun _ => .aborted

/-- `scalar_one_or_none()` inside a domain handler. -/
def oneOrNone {α : Type} (rows : List α) : Except WebhookFault (Option α) :=
  (scalarOneOrNone rows).mapError .raised

/-- The transaction a query returned, with its operation; nothing when one of them is missing. -/
def withOperation (s : Store) (rows : List Transaction) :
    Except WebhookFault (Option (Transaction × FinancialOperation)) := do
  match ← oneOrNone rows with
  | none => return none
  | some tx => return (s.operations.find? tx.operationId).map fun op => (tx, op)

/-- The order id and the payment id of a capture:
`payment_entity.get("order_id") or order_entity.get("id")` and `payment_entity.get("id")`. -/
def capturedReferences (payload : Json) : Except WebhookFault (Json × Json) := do
  let paymentEntity ← entity payload "payment"
  let orderEntity ← entity payload "order"
  let paymentOrderId ← getValue paymentEntity "order_id" .null
  let orderId ← if paymentOrderId.truthy then pure paymentOrderId
    else getValue orderEntity "id" .null
  let paymentId ← getValue paymentEntity "id" .null
  return (orderId, paymentId)

/-- The payment entity of a failure and its order id. -/
def failedReferences (payload : Json) : Except WebhookFault (Json × Json) := do
  let paymentEntity ← entity payload "payment"
  let orderId ← getValue paymentEntity "order_id" .null
  return (paymentEntity, orderId)

/-- The payment id and the amount of a refund. -/
def refundReferences (payload : Json) : Except WebhookFault (Json × Json) := do
  let refundEntity ← entity payload "refund"
  let paymentId ← getValue refundEntity "payment_id" .null
  let refundAmount ← getValue refundEntity "amount" (.int 0)
  return (paymentId, refundAmount)

/-! ### The domain handlers -/

def settlementAudit (action : AuditAction) (op : FinancialOperation) (status : OperationStatus)
    (eventType orderId : String) : AuditEvent where
  action
  actorId := "WEBHOOK_PROCESSOR"
  actorType := "SYSTEM"
  resourceId := op.mandateId
  resourceType := "MANDATE"
  payload := [("event_type", .str eventType), ("order_id", .str orderId),
    ("amount", .int op.amount)]
  previousState := none
  newState := some [("status", .str status.value)]

/-- The budget write of a capture: from the reservation if that covers the amount, else on top. -/
def captureBudget (op : FinancialOperation) (s : Store) : Store × Event :=
  match s.mandates.find? op.mandateId with
  | none => (s, .posted op .succeeded 0 0)
  | some mandate =>
    if mandate.reservedSpend ≥ op.amount then
      (s.updateMandate mandate.id (Mandate.commitReserved op.amount) op.commitReserved_key,
        .posted op .succeeded (-op.amount) op.amount)
    else
      (s.updateMandate mandate.id (Mandate.commitUnreserved op.amount) op.commitUnreserved_key,
        .posted op .succeeded 0 op.amount)

/-- The budget write of a failure: a release, if the reservation covers the amount. -/
def failureBudget (op : FinancialOperation) (s : Store) : Store × Event :=
  match s.mandates.find? op.mandateId with
  | none => (s, .posted op .failed 0 0)
  | some mandate =>
    if mandate.reservedSpend ≥ op.amount then
      (s.updateMandate mandate.id (Mandate.release op.amount) op.release_key,
        .posted op .failed (-op.amount) 0)
    else (s, .posted op .failed 0 0)

/-- `if payment_id: tx.gateway_payment_id = payment_id`. -/
def capturedPaymentId (env : Platform) (paymentId : Json) (tx : Transaction) :
    Except WebhookFault (Option String) :=
  if paymentId.truthy then (columnText env paymentId).map some else .ok tx.gatewayPaymentId

/-- The writes of a capture. -/
def capture (op : FinancialOperation) (eventType orderId : String)
    (gatewayPaymentId : Option String) (s : Store) : Store × List Event :=
  let budget := captureBudget op s
  (((budget.1.updateOperation op.id (.moveTo .succeeded)
      (FinancialOperation.moveTo_key .succeeded)).updateTransactions
      (fun tx => tx.gatewayOrderId = some orderId)
      fun tx => { tx with status := .captured, gatewayPaymentId }).audit
        (settlementAudit .budgetCommitted op .succeeded eventType orderId),
    [budget.2])

/-- `_handle_payment_captured_event`. -/
def handlePaymentCapturedEvent (env : Platform) (payload : Json) (eventType : String)
    (s : Store) : Except WebhookFault (Store × List Event) := do
  let (orderId, paymentId) ← capturedReferences payload
  if !orderId.truthy then return (s, [])
  else
    let orderId ← queryText env orderId
    match ← withOperation s (s.transactionsByOrder orderId) with
    | none => return (s, [])
    | some (tx, op) =>
      if op.status = .succeeded then return (s, [])
      else
        (validateTransition op.status .succeeded s!"Webhook event: {eventType}").mapError .raised
        return capture op eventType orderId (← capturedPaymentId env paymentId tx) s

/-- `payment_entity.get("error_description", ...)` as it is stored. -/
def failureMessage (env : Platform) (paymentEntity : Json) :
    Except WebhookFault (Option String) := do
  match ← getValue paymentEntity "error_description"
      (.str "Payment failed via gateway webhook") with
  | .null => return none
  | value => (columnText env value).map some

/-- The writes of a failure. -/
def failPayment (op : FinancialOperation) (eventType orderId : String)
    (errorMessage : Option String) (s : Store) : Store × List Event :=
  let budget := failureBudget op s
  (((budget.1.updateOperation op.id (.moveToWith .failed errorMessage)
      (FinancialOperation.moveToWith_key .failed errorMessage)).updateTransactions
      (fun tx => tx.gatewayOrderId = some orderId) fun tx => { tx with status := .failed }).audit
        (settlementAudit .budgetReleased op .failed eventType orderId),
    [budget.2])

/-- `_handle_payment_failed_event`. -/
def handlePaymentFailedEvent (env : Platform) (payload : Json) (eventType : String)
    (s : Store) : Except WebhookFault (Store × List Event) := do
  let (paymentEntity, orderId) ← failedReferences payload
  if !orderId.truthy then return (s, [])
  else
    let orderId ← queryText env orderId
    match ← withOperation s (s.transactionsByOrder orderId) with
    | none => return (s, [])
    | some (_, op) =>
      if !op.status.inFlight then return (s, [])
      else return failPayment op eventType orderId (← failureMessage env paymentEntity) s

/-- `_handle_refund_processed_event`. -/
def handleRefundProcessedEvent (env : Platform) (payload : Json) (s : Store) :
    Except WebhookFault (Store × List Event) := do
  let (paymentId, refundAmount) ← refundReferences payload
  if !paymentId.truthy then return (s, [])
  else
    let paymentId ← queryText env paymentId
    match ← withOperation s (s.transactionsByPayment paymentId) with
    | none => return (s, [])
    | some (_, op) =>
      match s.mandates.find? op.mandateId with
      | none => return (s, [])
      | some mandate =>
        let committed ← (env.minus mandate.currentAggregateSpend refundAmount).mapError .ofSql
        return (s.updateMandate mandate.id (Mandate.withCommitted committed)
            (Mandate.withCommitted_key committed),
          [.credited mandate.id (mandate.currentAggregateSpend - committed)])

/-- `_process_domain_webhook_event`. -/
def processDomainWebhookEvent (env : Platform) (eventType : Json) (eventData : Json)
    (s : Store) : Except WebhookFault (Store × List Event) := do
  let payload ← getValue eventData "payload" (.obj [])
  match eventType with
  | .str eventType =>
    if eventType = "order.paid" ∨ eventType = "payment.captured" then
      handlePaymentCapturedEvent env payload eventType s
    else if eventType = "payment.failed" then handlePaymentFailedEvent env payload eventType s
    else if eventType = "refund.processed" then handleRefundProcessedEvent env payload s
    else return (s, [])
  | _ => return (s, [])

/-! ### The pipeline -/

/-- Step 1: HMAC over the raw body, unless no secret is configured outside production. -/
def verifyDelivery (env : Platform) (settings : Settings) (delivery : WebhookDelivery) :
    Except Refusal Unit :=
  if settings.razorpayWebhookSecret.isEmpty then
    ensure (env.lower settings.environment ≠ "production")
      (.http 500 "Webhook verification secret is not configured.")
  else do
    let isValid ← compareDigest
      (env.hmacSha256Hex settings.razorpayWebhookSecret delivery.rawBody)
      delivery.xRazorpaySignature
    ensure isValid (.http 400 "Invalid Razorpay webhook signature")

/-- `event_data.get(key, default)` outside any `try`. -/
def bodyAttribute (eventData : Json) (key : String) (default : Json) : Except Refusal Json :=
  (eventData.get key default).mapError fun _ => .serverError

/-- A text argument outside any `try`. -/
def bodyText (env : Platform) (value : Json) : Except Refusal String :=
  (env.bindText value).mapError fun _ => .serverError

/-- Step 2 on a new event id: the record inserted before processing. -/
def newRecord (env : Platform) (delivery : WebhookDelivery) (eventId eventType : String)
    (eventData : Json) : WebhookEvent where
  eventId
  eventType
  payloadHash := env.sha256Hex delivery.rawBody
  rawPayload := eventData
  status := "PROCESSING"
  processed := false
  processingAttempts := 1
  maxRetries := 3
  errorMessage := none

namespace Record

/-- A further attempt at an event that was recorded before. -/
def retried (record : WebhookEvent) : WebhookEvent :=
  { record with status := "PROCESSING", processingAttempts := record.processingAttempts + 1 }

def succeeded (record : WebhookEvent) : WebhookEvent :=
  { record with status := "PROCESSED", processed := true, errorMessage := none }

/-- FAILED, or DEAD_LETTER once the attempts have reached `max_retries`. -/
def faulted (text : String) (record : WebhookEvent) : WebhookEvent :=
  { record with
    errorMessage := some text
    status := if record.processingAttempts ≥ record.maxRetries then "DEAD_LETTER" else "FAILED" }

theorem succeeded_key (record : WebhookEvent) :
    Keyed.key (succeeded record) = Keyed.key record := key_kept rfl

theorem faulted_key (text : String) (record : WebhookEvent) :
    Keyed.key (faulted text record) = Keyed.key record := key_kept rfl

end Record

/-- Step 2: persist the raw event, or count another attempt; the record as it is afterwards. -/
def recordDelivery (env : Platform) (delivery : WebhookDelivery) (eventId : String)
    (eventType eventData : Json) (s : Store) : Except Refusal (WebhookEvent × Store) :=
  match s.webhookEvents.find? eventId with
  | some existing =>
    .ok (Record.retried existing,
      { s with webhookEvents := s.webhookEvents.modify eventId Record.retried })
  | none => do
    let record := newRecord env delivery eventId (← bodyText env eventType) eventData
    let webhookEvents ← orRefuse (s.webhookEvents.insert record) .serverError
    return (record, { s with webhookEvents })

/-- Step 3: process the event and close its record. -/
def settleDelivery (env : Platform) (eventType eventData : Json) (record : WebhookEvent)
    (s : Store) : Except Refusal (Committed WebhookAnswer) :=
  match processDomainWebhookEvent env eventType eventData s with
  | .ok (s, events) =>
    .ok ⟨⟨"PROCESSED", record.eventId, none⟩,
      { s with
        webhookEvents := s.webhookEvents.modify record.eventId Record.succeeded
          Record.succeeded_key },
      events⟩
  | .error (.raised text) =>
    .ok ⟨⟨(Record.faulted text record).status, record.eventId, some text⟩,
      { s with
        webhookEvents := s.webhookEvents.modify record.eventId (Record.faulted text)
          (Record.faulted_key text) },
      []⟩
  | .error .aborted => .error .serverError

/-- `POST /webhooks/razorpay`. -/
def handleRazorpayWebhook (env : Platform) (settings : Settings) (delivery : WebhookDelivery)
    (s : Store) : Except Refusal (Committed WebhookAnswer) := do
  verifyDelivery env settings delivery
  let eventData ← orRefuse (env.jsonLoads delivery.rawBody) (.http 400 "Malformed JSON payload")
  let givenId ← bodyAttribute eventData "event_id" .null
  let eventId ← bodyText env (givenId.orElse (.str delivery.freshEventId))
  let eventType ← bodyAttribute eventData "event" (.str "unknown")
  if (s.webhookEvents.find? eventId).any (fun existing => existing.status = "PROCESSED") then
    return ⟨⟨"DUPLICATE_IGNORED", eventId, none⟩, s, []⟩
  else
    let (record, s) ← recordDelivery env delivery eventId eventType eventData s
    settleDelivery env eventType eventData record s

end MandatePlane.WebhookRoutes

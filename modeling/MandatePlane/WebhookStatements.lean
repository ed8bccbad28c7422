import MandatePlane.RaisingSession
import MandatePlane.WebhookReplay

/-!
# The webhook handlers, statement by statement

The pipeline catches what a domain handler raises and commits the session, with whatever
the handler has written until then.  Here the handlers write to the session where the
source writes, and raise where it raises.  They follow the handlers that build their
store at once: what is raised and caught has been raised before the first write.
-/

namespace MandatePlane.WebhookStatements

open DomainModel KeyedTable JsonValue HostEnvironment StateMachine WebhookRoutes RaisingSession

/-- What a domain handler does in the session of its request. -/
abbrev Statements (α : Type) := InSession Store WebhookFault α

/-- `except Exception`: what the session survives. -/
def Caught (fault : WebhookFault) : Prop := fault ≠ .aborted

/-! ### The handlers -/

/-- `tx.gateway_payment_id = payment_id`, where there is one; a value that is no text fails when the
session flushes. -/
def recordPaymentId (env : Platform) (orderId : String) (paymentId : Json) : Statements Unit :=
  if paymentId.truthy then do
    let gatewayPaymentId ← raising (columnText env paymentId)
    writing fun s => s.updateTransactions (fun tx => tx.gatewayOrderId = some orderId)
      fun tx => { tx with gatewayPaymentId := some gatewayPaymentId }
  else pure ()

/-- The UPDATE of a capture's mandate. -/
def commitBudget (op : FinancialOperation) : Statements Unit := do
  match ← reading fun s : Store => s.mandates.find? op.mandateId with
  | none => return ()
  | some mandate =>
    if mandate.reservedSpend ≥ op.amount then
      writing fun s => s.updateMandate mandate.id (Mandate.commitReserved op.amount)
        op.commitReserved_key
    else
      writing fun s => s.updateMandate mandate.id (Mandate.commitUnreserved op.amount)
        op.commitUnreserved_key

/-- The writes of `_handle_payment_captured_event`. -/
def captureWrites (env : Platform) (op : FinancialOperation) (eventType orderId : String)
    (paymentId : Json) : Statements Unit := do
  writing fun s => s.updateOperation op.id (.moveTo .succeeded)
    (FinancialOperation.moveTo_key .succeeded)
  writing fun s => s.updateTransactions (fun tx => tx.gatewayOrderId = some orderId)
    fun tx => { tx with status := .captured }
  recordPaymentId env orderId paymentId
  commitBudget op
  writing fun s => s.audit (settlementAudit .budgetCommitted op .succeeded eventType orderId)

/-- `scalar_one_or_none()` of the transactions, and `db.get` of the operation. -/
def selectOperation (rows : Store → List Transaction) :
    Statements (Option (Transaction × FinancialOperation)) := do
  match ← raising (oneOrNone (← reading rows)) with
  | none => return none
  | some tx =>
    return (← reading fun s : Store => s.operations.find? tx.operationId).map fun op => (tx, op)

/-- `_handle_payment_captured_event`. -/
def capturedStatements (env : Platform) (payload : Json) (eventType : String) :
    Statements Unit := do
  let (orderId, paymentId) ← raising (capturedReferences payload)
  if !orderId.truthy then return ()
  else
    let orderId ← raising (queryText env orderId)
    match ← selectOperation fun s => s.transactionsByOrder orderId with
    | none => return ()
    | some (_, op) =>
      if op.status = .succeeded then return ()
      else
        raising ((validateTransition op.status .succeeded
          s!"Webhook event: {eventType}").mapError .raised)
        captureWrites env op eventType orderId paymentId

/-- A text column that may be NULL, written when the session flushes. -/
def nullableText (env : Platform) : Json → Except WebhookFault (Option String)
  | .null => .ok none
  | value => (columnText env value).map some

/-- `op.error_message = payment_entity.get("error_description", ...)`.  The attribute is looked up
after the status has been written. -/
def recordFailure (env : Platform) (op : FinancialOperation) (paymentEntity : Json) :
    Statements Unit := do
  let description ← raising (getValue paymentEntity "error_description"
    (.str "Payment failed via gateway webhook"))
  let errorMessage ← raising (nullableText env description)
  writing fun s => s.updateOperation op.id fun row => { row with errorMessage }

/-- The UPDATE of a failure's mandate. -/
def releaseBudget (op : FinancialOperation) : Statements Unit := do
  match ← reading fun s : Store => s.mandates.find? op.mandateId with
  | none => return ()
  | some mandate =>
    if mandate.reservedSpend ≥ op.amount then
      writing fun s => s.updateMandate mandate.id (Mandate.release op.amount) op.release_key
    else return ()

/-- The writes of `_handle_payment_failed_event`. -/
def failureWrites (env : Platform) (op : FinancialOperation) (eventType orderId : String)
    (paymentEntity : Json) : Statements Unit := do
  writing fun s => s.updateOperation op.id (.moveTo .failed)
    (FinancialOperation.moveTo_key .failed)
  recordFailure env op paymentEntity
  writing fun s => s.updateTransactions (fun tx => tx.gatewayOrderId = some orderId)
    fun tx => { tx with status := .failed }
  releaseBudget op
  writing fun s => s.audit (settlementAudit .budgetReleased op .failed eventType orderId)

/-- `_handle_payment_failed_event`. -/
def failedStatements (env : Platform) (payload : Json) (eventType : String) :
    Statements Unit := do
  let (paymentEntity, orderId) ← raising (failedReferences payload)
  if !orderId.truthy then return ()
  else
    let orderId ← raising (queryText env orderId)
    match ← selectOperation fun s => s.transactionsByOrder orderId with
    | none => return ()
    | some (_, op) =>
      if !op.status.inFlight then return ()
      else failureWrites env op eventType orderId paymentEntity

/-- `_handle_refund_processed_event`. -/
def refundStatements (env : Platform) (payload : Json) : Statements Unit := do
  let (paymentId, refundAmount) ← raising (refundReferences payload)
  if !paymentId.truthy then return ()
  else
    let paymentId ← raising (queryText env paymentId)
    match ← selectOperation fun s => s.transactionsByPayment paymentId with
    | none => return ()
    | some (_, op) =>
      match ← reading fun s : Store => s.mandates.find? op.mandateId with
      | none => return ()
      | some mandate =>
        let committed ← raising ((env.minus mandate.currentAggregateSpend refundAmount).mapError
          .ofSql)
        writing fun s => s.updateMandate mandate.id (Mandate.withCommitted committed)
          (Mandate.withCommitted_key committed)

/-- `_process_domain_webhook_event`. -/
def processStatements (env : Platform) (eventType eventData : Json) : Statements Unit := do
  let payload ← raising (getValue eventData "payload" (.obj []))
  match eventType with
  | .str eventType =>
    if eventType = "order.paid" ∨ eventType = "payment.captured" then
      capturedStatements env payload eventType
    else if eventType = "payment.failed" then failedStatements env payload eventType
    else if eventType = "refund.processed" then refundStatements env payload
    else return ()
  | _ => return ()

/-! ### The writes -/

section Writes

variable {env : Platform} {s : Store} {op : FinancialOperation}

/-- Two writes to the transactions a query selects are one. -/
theorem updateTransactions_twice (s : Store) {selects : Transaction → Bool}
    {f g : Transaction → Transaction} (hf : ∀ tx, selects (f tx) = selects tx) :
    (s.updateTransactions selects f).updateTransactions selects g =
      s.updateTransactions selects fun tx => g (f tx) := by
  unfold Store.updateTransactions
  simp only [List.map_map]
  congr 2
  funext tx
  show (if selects (if selects tx then f tx else tx) then g (if selects tx then f tx else tx)
    else if selects tx then f tx else tx) = if selects tx then g (f tx) else tx
  by_cases h : selects tx = true
  · simp [h, hf]
  · simp [h]

theorem updateTransactions_self (s : Store) (selects : Transaction → Bool) :
    (s.updateTransactions selects fun tx => tx) = s := by
  unfold Store.updateTransactions
  simp only [ite_self, List.map_id']

/-- A write to the only selected transaction may use what is known of it. -/
theorem updateTransactions_congr {selects : Transaction → Bool} {f g : Transaction → Transaction}
    {tx : Transaction} (hone : s.transactions.filter selects = [tx]) (h : f tx = g tx) :
    s.updateTransactions selects f = s.updateTransactions selects g := by
  unfold Store.updateTransactions
  congr 1
  refine List.map_congr_left fun other hother => ?_
  by_cases hselected : selects other = true
  · have hmem : other ∈ s.transactions.filter selects := List.mem_filter.mpr ⟨hother, hselected⟩
    rw [hone, List.mem_singleton] at hmem
    rw [if_pos hselected, if_pos hselected, hmem, h]
  · rw [if_neg hselected, if_neg hselected]

theorem commitBudget_apply (op : FinancialOperation) (s : Store) :
    commitBudget op s = (.ok (), (captureBudget op s).1) := by
  unfold commitBudget captureBudget
  simp only [reading_bind]
  cases s.mandates.find? op.mandateId with
  | none => rfl
  | some mandate =>
    dsimp only
    split <;> rfl

theorem releaseBudget_apply (op : FinancialOperation) (s : Store) :
    releaseBudget op s = (.ok (), (failureBudget op s).1) := by
  unfold releaseBudget failureBudget
  simp only [reading_bind]
  cases s.mandates.find? op.mandateId with
  | none => rfl
  | some mandate =>
    dsimp only
    split <;> rfl

/-- The budget of a capture is a write to the mandates. -/
theorem captureBudget_store (op : FinancialOperation) (s : Store) :
    ∃ mandates, (captureBudget op s).1 = { s with mandates } := by
  unfold captureBudget
  split
  · exact ⟨s.mandates, rfl⟩
  · split <;> exact ⟨_, rfl⟩

theorem failureBudget_store (op : FinancialOperation) (s : Store) :
    ∃ mandates, (failureBudget op s).1 = { s with mandates } := by
  unfold failureBudget
  split
  · exact ⟨s.mandates, rfl⟩
  · split
    · exact ⟨_, rfl⟩
    · exact ⟨s.mandates, rfl⟩

/-- It depends on the mandates alone. -/
theorem captureBudget_writes (operations : Table FinancialOperation)
    (transactions : List Transaction) :
    (captureBudget op { s with operations, transactions }).1 =
      { (captureBudget op s).1 with operations, transactions } := by
  unfold captureBudget
  dsimp only
  cases s.mandates.find? op.mandateId with
  | none => rfl
  | some mandate =>
    dsimp only
    split <;> rfl

theorem failureBudget_writes (operations : Table FinancialOperation)
    (transactions : List Transaction) :
    (failureBudget op { s with operations, transactions }).1 =
      { (failureBudget op s).1 with operations, transactions } := by
  unfold failureBudget
  dsimp only
  cases s.mandates.find? op.mandateId with
  | none => rfl
  | some mandate =>
    dsimp only
    split <;> rfl

end Writes

/-! ### The statements follow the handlers -/

section Follows

variable {env : Platform} {s : Store} {payload : Json} {eventType : String}

/-- The queries of a handler find what the handler finds. -/
theorem selectOperation_apply (rows : Store → List Transaction) (s : Store) :
    selectOperation rows s = (withOperation s (rows s), s) := by
  unfold selectOperation withOperation
  simp only [reading_bind]
  cases oneOrNone (rows s) with
  | error fault => rfl
  | ok row => cases row <;> rfl

/-- An id that is no text fails when the session flushes. -/
theorem columnText_error {value : Json} {fault : WebhookFault}
    (h : columnText env value = .error fault) : ¬ Caught fault := by
  unfold columnText at h
  cases hvalue : env.bindText value with
  | error sql =>
    rw [hvalue] at h
    cases h
    exact fun hcaught => hcaught rfl
  | ok text =>
    rw [hvalue] at h
    cases h

theorem nullableText_error {value : Json} {fault : WebhookFault}
    (h : nullableText env value = .error fault) : ¬ Caught fault := by
  unfold nullableText at h
  split at h
  · cases h
  · cases htext : columnText env value with
    | error other =>
      rw [htext] at h
      cases h
      exact columnText_error htext
    | ok text =>
      rw [htext] at h
      cases h

/-- What a capture leaves, with the id that is recorded. -/
theorem captureWrites_returned {op : FinancialOperation} {orderId : String} {paymentId : Json}
    {f : Transaction → Transaction} {gatewayPaymentId : Option String}
    (hrecord : ∀ s, recordPaymentId env orderId paymentId s =
      (.ok (), s.updateTransactions (fun tx => tx.gatewayOrderId = some orderId) f))
    (hfuse : (s.updateTransactions (fun tx => tx.gatewayOrderId = some orderId)
        fun tx => { tx with status := .captured }).updateTransactions
          (fun tx => tx.gatewayOrderId = some orderId) f =
      s.updateTransactions (fun tx => tx.gatewayOrderId = some orderId)
        fun tx => { tx with status := .captured, gatewayPaymentId }) :
    captureWrites env op eventType orderId paymentId s =
      (.ok (), (capture op eventType orderId gatewayPaymentId s).1) := by
  have hstate : ((s.updateOperation op.id (.moveTo .succeeded)).updateTransactions
        (fun tx => tx.gatewayOrderId = some orderId)
          fun tx => { tx with status := .captured }).updateTransactions
            (fun tx => tx.gatewayOrderId = some orderId) f =
      { s with
        operations := (s.updateOperation op.id (.moveTo .succeeded)).operations
        transactions := (s.updateTransactions (fun tx => tx.gatewayOrderId = some orderId)
          fun tx => { tx with status := .captured, gatewayPaymentId }).transactions } := by
    rw [← hfuse]
    rfl
  unfold captureWrites
  simp only [writing_bind]
  rw [bind_of_returned (hrecord _), bind_of_returned (commitBudget_apply op _), writing_apply,
    hstate, captureBudget_writes]
  obtain ⟨mandates, hmandates⟩ := captureBudget_store op s
  unfold capture
  simp only [hmandates]
  rfl

/-- **The writes of a capture** are the capture, or fail when the session flushes. -/
theorem captureWrites_follows {op : FinancialOperation} {orderId : String} {paymentId : Json}
    {tx : Transaction} (hone : s.transactionsByOrder orderId = [tx]) :
    Follows Caught Prod.fst s (captureWrites env op eventType orderId paymentId s)
      (capturedPaymentId env paymentId tx >>= fun gatewayPaymentId =>
        .ok (capture op eventType orderId gatewayPaymentId s)) := by
  by_cases htruthy : paymentId.truthy = true
  · have hread : capturedPaymentId env paymentId tx = (columnText env paymentId).map some :=
      if_pos htruthy
    have hrecord : recordPaymentId env orderId paymentId = (do
        let gatewayPaymentId ← raising (columnText env paymentId)
        writing fun s => s.updateTransactions (fun tx => tx.gatewayOrderId = some orderId)
          fun tx => { tx with gatewayPaymentId := some gatewayPaymentId }) :=
      if_pos htruthy
    rw [hread]
    cases hid : columnText env paymentId with
    | error fault =>
      have hraised : ∀ s, recordPaymentId env orderId paymentId s = (.error fault, s) := by
        intro s
        rw [hrecord, hid]
        rfl
      unfold captureWrites
      simp only [writing_bind]
      rw [bind_of_raised (hraised _)]
      exact .lost (columnText_error hid) _
    | ok id =>
      have hreturned : captureWrites env op eventType orderId paymentId s =
          (.ok (), (capture op eventType orderId (some id) s).1) := by
        refine captureWrites_returned (f := fun tx => { tx with gatewayPaymentId := some id })
          (fun s => ?_) (updateTransactions_twice s fun _ => rfl)
        rw [hrecord, hid]
        rfl
      rw [hreturned]
      exact .returned () (capture op eventType orderId (some id) s)
  · have hread : capturedPaymentId env paymentId tx = .ok tx.gatewayPaymentId := if_neg htruthy
    have hrecord : recordPaymentId env orderId paymentId = pure () := if_neg htruthy
    have hreturned : captureWrites env op eventType orderId paymentId s =
        (.ok (), (capture op eventType orderId tx.gatewayPaymentId s).1) := by
      refine captureWrites_returned (f := fun tx => tx) (fun s => ?_) ?_
      · rw [hrecord, updateTransactions_self]
        rfl
      · rw [updateTransactions_self]
        exact updateTransactions_congr hone rfl
    rw [hread, hreturned]
    exact .returned () (capture op eventType orderId tx.gatewayPaymentId s)

/-- **`_handle_payment_captured_event`**, statement by statement. -/
theorem capturedStatements_follows :
    Follows Caught Prod.fst s (capturedStatements env payload eventType s)
      (handlePaymentCapturedEvent env payload eventType s) := by
  refine Follows.raising_bind fun refs _ => ?_
  obtain ⟨orderId, paymentId⟩ := refs
  dsimp only
  split
  · exact .returned () (s, [])
  · refine Follows.raising_bind fun text _ => ?_
    rw [bind_of_unwritten (selectOperation_apply _ s)]
    refine Follows.raising_bind fun found hfound => ?_
    cases found with
    | none => exact .returned () (s, [])
    | some found =>
      obtain ⟨tx, op⟩ := found
      obtain ⟨hone, -⟩ := HandlerPostings.withOperation_eq_some.mp hfound
      dsimp only
      split
      · exact .returned () (s, [])
      · exact Follows.raising_bind fun _ _ => captureWrites_follows hone

/-- An attribute of what has had one is there to be read. -/
theorem getValue_again {value answer : Json} {key : String} {default : Json}
    (h : getValue value key default = .ok answer) (key' : String) (default' : Json) :
    ∃ answer', getValue value key' default' = .ok answer' := by
  cases value with
  | obj fields => exact ⟨_, rfl⟩
  | _ => cases h

/-- What a failure leaves, with the message that is recorded. -/
theorem failureWrites_returned {op : FinancialOperation} {orderId : String} {paymentEntity : Json}
    {errorMessage : Option String}
    (hrecord : ∀ s, recordFailure env op paymentEntity s =
      (.ok (), s.updateOperation op.id fun row => { row with errorMessage })) :
    failureWrites env op eventType orderId paymentEntity s =
      (.ok (), (failPayment op eventType orderId errorMessage s).1) := by
  have hstate : ((s.updateOperation op.id (.moveTo .failed)).updateOperation op.id
        fun row => { row with errorMessage }).updateTransactions
          (fun tx => tx.gatewayOrderId = some orderId) (fun tx => { tx with status := .failed }) =
      { s with
        operations := (s.updateOperation op.id (.moveToWith .failed errorMessage)).operations
        transactions := (s.updateTransactions (fun tx => tx.gatewayOrderId = some orderId)
          fun tx => { tx with status := .failed }).transactions } := by
    have hrows : ((s.operations.modify op.id (.moveTo .failed)).modify op.id
          fun row => { row with errorMessage }) =
        s.operations.modify op.id (.moveToWith .failed errorMessage) :=
      Table.modify_twice
    unfold Store.updateOperation Store.updateTransactions
    dsimp only
    rw [hrows]
  unfold failureWrites
  simp only [writing_bind]
  rw [bind_of_returned (hrecord _), writing_bind, bind_of_returned (releaseBudget_apply op _),
    writing_apply, hstate, failureBudget_writes]
  obtain ⟨mandates, hmandates⟩ := failureBudget_store op s
  unfold failPayment
  simp only [hmandates]
  rfl

/-- **The writes of a failure** are the failure, or fail when the session flushes: by then the
description has been looked up in what is known to be a dictionary. -/
theorem failureWrites_follows {op : FinancialOperation} {orderId : String}
    {paymentEntity answer : Json} {key : String} {default : Json}
    (hread : getValue paymentEntity key default = .ok answer) :
    Follows Caught Prod.fst s (failureWrites env op eventType orderId paymentEntity s)
      (failureMessage env paymentEntity >>= fun errorMessage =>
        .ok (failPayment op eventType orderId errorMessage s)) := by
  obtain ⟨description, hdescription⟩ := getValue_again hread "error_description"
    (.str "Payment failed via gateway webhook")
  have hmessage : failureMessage env paymentEntity = nullableText env description := by
    unfold failureMessage
    rw [hdescription]
    cases description <;> rfl
  have hrecord : ∀ s, recordFailure env op paymentEntity s =
      (raising (nullableText env description) >>= fun errorMessage =>
        writing fun s => s.updateOperation op.id fun row => { row with errorMessage }) s := by
    intro s
    unfold recordFailure
    rw [hdescription]
    rfl
  rw [hmessage]
  cases hcolumn : nullableText env description with
  | error fault =>
    rw [hcolumn] at hrecord
    unfold failureWrites
    simp only [writing_bind]
    rw [bind_of_raised (hrecord _)]
    exact .lost (nullableText_error hcolumn) _
  | ok errorMessage =>
    rw [hcolumn] at hrecord
    rw [failureWrites_returned hrecord]
    exact .returned () (failPayment op eventType orderId errorMessage s)

/-- **`_handle_payment_failed_event`**, statement by statement. -/
theorem failedStatements_follows :
    Follows Caught Prod.fst s (failedStatements env payload eventType s)
      (handlePaymentFailedEvent env payload eventType s) := by
  refine Follows.raising_bind fun refs hrefs => ?_
  obtain ⟨paymentEntity, orderId⟩ := refs
  dsimp only
  split
  · exact .returned () (s, [])
  · refine Follows.raising_bind fun text _ => ?_
    rw [bind_of_unwritten (selectOperation_apply _ s)]
    refine Follows.raising_bind fun found _ => ?_
    cases found with
    | none => exact .returned () (s, [])
    | some found =>
      obtain ⟨tx, op⟩ := found
      dsimp only
      split
      · exact .returned () (s, [])
      · obtain ⟨entity, -, hrefs⟩ := bind_eq_ok.mp hrefs
        obtain ⟨answer, hread, hrefs⟩ := bind_eq_ok.mp hrefs
        cases hrefs
        exact failureWrites_follows hread

/-- **`_handle_refund_processed_event`**, statement by statement. -/
theorem refundStatements_follows :
    Follows Caught Prod.fst s (refundStatements env payload s)
      (handleRefundProcessedEvent env payload s) := by
  refine Follows.raising_bind fun refs _ => ?_
  obtain ⟨paymentId, refundAmount⟩ := refs
  dsimp only
  split
  · exact .returned () (s, [])
  · refine Follows.raising_bind fun text _ => ?_
    rw [bind_of_unwritten (selectOperation_apply _ s)]
    refine Follows.raising_bind fun found _ => ?_
    cases found with
    | none => exact .returned () (s, [])
    | some found =>
      obtain ⟨tx, op⟩ := found
      dsimp only
      rw [reading_bind]
      cases s.mandates.find? op.mandateId with
      | none => exact .returned () (s, [])
      | some mandate =>
        refine Follows.raising_bind fun committed _ => ?_
        exact .returned () (s.updateMandate mandate.id (Mandate.withCommitted committed), _)

/-- **`_process_domain_webhook_event`**, statement by statement, ends as the handlers do: what it
raises and the session survives has been raised before the first write. -/
theorem processStatements_follows (eventType eventData : Json) :
    Follows Caught Prod.fst s (processStatements env eventType eventData s)
      (processDomainWebhookEvent env eventType eventData s) := by
  refine Follows.raising_bind fun payload _ => ?_
  cases eventType with
  | str eventType =>
    dsimp only
    split
    · exact capturedStatements_follows
    · split
      · exact failedStatements_follows
      · split
        · exact refundStatements_follows
        · exact .returned () (s, [])
  | _ => exact .returned () (s, [])

end Follows

/-! ### The pipeline -/

/-- Step 3: run the statements, then close the record and commit the session, whether they returned
or raised. -/
def settleInSession (env : Platform) (eventType eventData : Json) (record : WebhookEvent)
    (s : Store) : Except Refusal (WebhookAnswer × Store) :=
  match processStatements env eventType eventData s with
  | (.ok (), s) => .ok (⟨"PROCESSED", record.eventId, none⟩,
      { s with
        webhookEvents := s.webhookEvents.modify record.eventId Record.succeeded
          Record.succeeded_key })
  | (.error (.raised text), s) =>
    .ok (⟨(Record.faulted text record).status, record.eventId, some text⟩,
      { s with
        webhookEvents := s.webhookEvents.modify record.eventId (Record.faulted text)
          (Record.faulted_key text) })
  | (.error .aborted, _) => .error .serverError

/-- `POST /webhooks/razorpay`, with the handlers statement by statement. -/
def deliverInSession (env : Platform) (settings : Settings) (delivery : WebhookDelivery)
    (s : Store) : Except Refusal (WebhookAnswer × Store) := do
  verifyDelivery env settings delivery
  let eventData ← orRefuse (env.jsonLoads delivery.rawBody) (.http 400 "Malformed JSON payload")
  let givenId ← bodyAttribute eventData "event_id" .null
  let eventId ← bodyText env (givenId.orElse (.str delivery.freshEventId))
  let eventType ← bodyAttribute eventData "event" (.str "unknown")
  if (s.webhookEvents.find? eventId).any (fun existing => existing.status = "PROCESSED") then
    return (⟨"DUPLICATE_IGNORED", eventId, none⟩, s)
  else
    let (record, s) ← recordDelivery env delivery eventId eventType eventData s
    settleInSession env eventType eventData record s

section Pipeline

variable {env : Platform} {settings : Settings}

/-- **Committing the session after an exception commits no write of the handler.** -/
theorem settleInSession_eq (eventType eventData : Json) (record : WebhookEvent) (s : Store) :
    settleInSession env eventType eventData record s =
      (settleDelivery env eventType eventData record s).map fun c => (c.value, c.store) := by
  have hfollows := @processStatements_follows env s eventType eventData
  unfold settleInSession settleDelivery
  generalize processStatements env eventType eventData s = x at hfollows ⊢
  generalize processDomainWebhookEvent env eventType eventData s = y at hfollows ⊢
  cases hfollows with
  | returned a done => rfl
  | @raised fault hcaught =>
    cases fault with
    | raised text => rfl
    | aborted => exact absurd rfl hcaught
  | @lost fault hnot s' =>
    cases fault with
    | raised text => exact absurd (show Caught (.raised text) from nofun) hnot
    | aborted => rfl

/-- **The pipeline with its session is the pipeline.** -/
theorem deliverInSession_eq (delivery : WebhookDelivery) (s : Store) :
    deliverInSession env settings delivery s =
      (handleRazorpayWebhook env settings delivery s).map fun c => (c.value, c.store) := by
  have hmap : ∀ {α β : Type} {x : Except Refusal α} {g : α → Except Refusal β}
      {h : β → WebhookAnswer × Store},
      (x >>= g).map h = x >>= fun a => (g a).map h := by
    intro α β x g h
    cases x <;> rfl
  unfold deliverInSession handleRazorpayWebhook
  simp only [hmap]
  refine bind_congr fun _ => bind_congr fun eventData => bind_congr fun givenId =>
    bind_congr fun eventId => bind_congr fun eventType => ?_
  split
  · rfl
  · rw [hmap]
    exact bind_congr fun recorded => settleInSession_eq eventType eventData recorded.1 recorded.2

end Pipeline

end MandatePlane.WebhookStatements

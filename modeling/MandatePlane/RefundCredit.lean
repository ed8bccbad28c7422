import MandatePlane.TransactionLinks
import MandatePlane.WebhookReplay

/-!
# The credit of a processed refund

A refund names a payment, and the handler looks for the one transaction that carries
its id.  The order that was captured has such a transaction; every refund requested
through the control plane inserts a further one with the same payment id.  From then on
the query has several rows, the handler raises, and the refund is credited nowhere.

In every state that is reached a captured payment has at least one transaction, its
operation and its mandate are stored, and so the credit depends on that number alone.
-/

namespace MandatePlane.RefundCredit

open DomainModel KeyedTable LabelledRun LedgerView HostEnvironment JsonValue HandlerPostings
open ControlPlane TransactionLinks OperationRoutes WebhookRoutes WebhookReplay

/-! ### References that are kept -/

/-- The operation of a transaction and the mandate of an operation are stored. -/
structure Referenced (s : Store) : Prop where
  operation : ∀ tx ∈ s.transactions, ∃ op, s.operations.find? tx.operationId = some op
  mandate : ∀ op ∈ s.operations.rows, ∃ m, s.mandates.find? op.mandateId = some m

section References

variable {env : Platform} {settings : Settings} {s s' : Store} {a : Action} {events : List Event}

/-- No row that something refers to is ever deleted. -/
theorem referenced_step (h : Step env settings s a events s') (hr : Referenced s) :
    Referenced s' := by
  have hmandate : ∀ id m, s.mandates.find? id = some m → ∃ m', s'.mandates.find? id = some m' := by
    intro id m hm
    have hterm : (terms s).find? id = some (termsOf m) := by rw [terms_find?, hm]; rfl
    have hterms := h.terms_kept hterm
    rw [terms_find?] at hterms
    obtain ⟨m', hm', -⟩ := Option.map_eq_some_iff.mp hterms
    exact ⟨m', hm'⟩
  have hlink : ∀ link ∈ links s, ∃ op, s'.operations.find? link.1 = some op := by
    intro link hm
    obtain ⟨tx, htx, rfl⟩ := List.mem_map.mp hm
    obtain ⟨op, hop⟩ := hr.operation tx htx
    obtain ⟨op', hop', -⟩ := h.operation_kept hop
    exact ⟨op', hop'⟩
  refine ⟨fun tx htx => ?_, fun op hop => ?_⟩
  · have hm : linkOf tx ∈ links s' := List.mem_map_of_mem htx
    rcases link_added h with he | ⟨id, order, he, -, hold, hfind, -⟩
    · rw [he] at hm
      exact hlink _ hm
    · rw [he] at hm
      rcases List.mem_append.mp hm with hm | hm
      · exact hlink _ hm
      · rw [holds_find?] at hfind
        obtain ⟨op, hop, -⟩ := Option.map_eq_some_iff.mp hfind
        have hid : tx.operationId = id := congrArg Prod.fst (List.mem_singleton.mp hm)
        rw [hid]
        exact ⟨op, hop⟩
  · have hstored : s'.operations.find? op.id = some op := Table.find?_of_mem hop
    have horder : (orders s').find? op.id = some (orderOf op) := by
      rw [orders_find?, hstored]
      rfl
    -- an operation stored before keeps its mandate
    have hbefore (h₀ : (orders s).find? op.id = some (orderOf op)) :
        ∃ m, s'.mandates.find? op.mandateId = some m := by
      rw [orders_find?] at h₀
      obtain ⟨op₀, hop₀, hsame⟩ := Option.map_eq_some_iff.mp h₀
      obtain ⟨m, hm⟩ := hr.mandate op₀ (Table.mem_of_find? hop₀)
      have hid : (orderOf op₀).mandateId = (orderOf op).mandateId := by rw [hsame]
      exact hmandate _ m (hid ▸ hm)
    rcases h.orders_cases with he | ⟨payload, headers, inputs, agent, mandate, result, -, hreq⟩
    · rw [he] at horder
      exact hbefore horder
    · rw [Table.find?_insert hreq.ordered] at horder
      split at horder
      · have hid : (orderOf (newOperation env payload inputs)).mandateId =
            (orderOf op).mandateId := by rw [Option.some.inj horder]
        exact hmandate _ mandate (hid ▸ hreq.mandateFound)
      · exact hbefore horder

theorem referenced_run (hr : Referenced s) (actions : List Action) :
    Referenced ((controlPlane env settings).run s actions) := by
  induction actions generalizing s with
  | nil => exact hr
  | cons a actions ih => exact ih (referenced_step (perform_step env settings s a) hr)

end References

/-! ### One refund -/

/-- The payment was captured under an operation that created an order: the transaction of the
operation carries the payment's id. -/
structure CapturedUnder (s : Store) (paymentId : String) (op : FinancialOperation) : Prop where
  nonempty : paymentId.isEmpty = false
  ordered : op.operationType = .createOrder
  stored : s.operations.find? op.id = some op
  transaction : ∃ tx ∈ s.transactionsOf op.id, tx.gatewayPaymentId = some paymentId

/-- A signed delivery, not processed before, of a refund of `amount` on the payment. -/
structure RefundDelivered (env : Platform) (settings : Settings) (s : Store)
    (delivery : WebhookDelivery) (paymentId : String) (amount : ℤ) : Prop where
  signed : verifyDelivery env settings delivery = .ok ()
  event : ∃ fields payload eventId, env.jsonLoads delivery.rawBody = some (.obj fields) ∧
    givenType fields = .str "refund.processed" ∧
    env.bindText ((givenId fields).orElse (.str delivery.freshEventId)) = .ok eventId ∧
    (∀ record, s.webhookEvents.find? eventId = some record → record.status ≠ "PROCESSED") ∧
    (Json.obj fields).get "payload" (.obj []) = .ok payload ∧
    refundReferences payload = .ok (.str paymentId, .int amount)

/-- **Processing succeeds and credits the mandate**: its `current_aggregate_spend` falls by the
amount, that of every other mandate stays. -/
def Credits (env : Platform) (settings : Settings) (s : Store) (delivery : WebhookDelivery)
    (mandateId : String) (amount : ℤ) : Prop :=
  ∃ c, handleRazorpayWebhook env settings delivery s = .ok c ∧ c.value.status = "PROCESSED" ∧
    ∀ id, (c.store.mandates.find? id).map Mandate.currentAggregateSpend =
      (s.mandates.find? id).map fun m =>
        if id = mandateId then m.currentAggregateSpend - amount else m.currentAggregateSpend

section Refund

variable {env : Platform} {settings : Settings} {s : Store}

/-- A delivery of a typed event that was not processed before is recorded and settled. -/
theorem handleRazorpayWebhook_of_new {delivery : WebhookDelivery} {fields : Dict}
    {eventId eventType : String} (hsigned : verifyDelivery env settings delivery = .ok ())
    (hbody : env.jsonLoads delivery.rawBody = some (.obj fields))
    (hid : env.bindText ((givenId fields).orElse (.str delivery.freshEventId)) = .ok eventId)
    (htype : givenType fields = .str eventType)
    (hnew : ∀ record, s.webhookEvents.find? eventId = some record → record.status ≠ "PROCESSED") :
    ∃ record records, handleRazorpayWebhook env settings delivery s =
      settleDelivery env (.str eventType) (.obj fields) record (withRecords s records) := by
  obtain ⟨rawBody, signature, freshEventId⟩ := delivery
  have hbound : Signed env settings rawBody signature fields := ⟨hsigned, hbody⟩
  have hany : ¬ (s.webhookEvents.find? eventId).any
      (fun existing => existing.status = "PROCESSED") = true := by
    intro hany
    obtain ⟨record, hfind, hstatus⟩ := any_processed_iff.mp hany
    exact hnew record hfind hstatus
  rw [handleRazorpayWebhook_of_signed hbound hid, if_neg hany, htype]
  cases hrecord : recordDelivery env ⟨rawBody, signature, freshEventId⟩ eventId (.str eventType)
      (.obj fields) s with
  | error refusal => exact absurd rfl (recordDelivery_error hrecord eventType)
  | ok recorded =>
    obtain ⟨records, hstore, -, -, -⟩ := recordDelivery_record hrecord
    refine ⟨recorded.1, records, ?_⟩
    rw [← hstore]
    rfl

/-- The refund handler on a payment with one transaction. -/
theorem handleRefund_of_one {payload : Json} {paymentId : String} {amount : ℤ} {tx : Transaction}
    {op : FinancialOperation} {m : Mandate}
    (hrefs : refundReferences payload = .ok (.str paymentId, .int amount))
    (hnonempty : paymentId.isEmpty = false) (hone : s.transactionsByPayment paymentId = [tx])
    (hop : s.operations.find? tx.operationId = some op)
    (hm : s.mandates.find? op.mandateId = some m) :
    handleRefundProcessedEvent env payload s =
      .ok (s.updateMandate m.id (Mandate.withCommitted (m.currentAggregateSpend - amount)),
        [.credited m.id (m.currentAggregateSpend - (m.currentAggregateSpend - amount))]) := by
  have hrow : withOperation s (s.transactionsByPayment paymentId) = .ok (some (tx, op)) :=
    withOperation_eq_some.mpr ⟨hone, hop⟩
  have htruthy : (Json.str paymentId).truthy = true := by rw [Json.truthy, hnonempty]; rfl
  have htext : queryText env (.str paymentId) = .ok paymentId := rfl
  unfold handleRefundProcessedEvent
  simp only [hrefs, bind, Except.bind, htruthy, Bool.not_true, Bool.false_eq_true, if_false, htext,
    hrow, hm, minus_int, Except.mapError, pure, Except.pure]

/-- The refund handler on a payment with several transactions raises. -/
theorem handleRefund_of_many {payload : Json} {paymentId : String} {amount : ℤ}
    (hrefs : refundReferences payload = .ok (.str paymentId, .int amount))
    (hnonempty : paymentId.isEmpty = false)
    (hmany : 1 < (s.transactionsByPayment paymentId).length) :
    ∃ text, handleRefundProcessedEvent env payload s = .error (.raised text) := by
  have htruthy : (Json.str paymentId).truthy = true := by rw [Json.truthy, hnonempty]; rfl
  have htext : queryText env (.str paymentId) = .ok paymentId := rfl
  have hrow : ∃ text, withOperation s (s.transactionsByPayment paymentId) =
      .error (.raised text) := by
    match s.transactionsByPayment paymentId, hmany with
    | _ :: _ :: _, _ => exact ⟨_, rfl⟩
  obtain ⟨text, hrow⟩ := hrow
  refine ⟨text, ?_⟩
  unfold handleRefundProcessedEvent
  simp only [hrefs, bind, Except.bind, htruthy, Bool.not_true, Bool.false_eq_true, if_false, htext,
    hrow]

theorem processDomainWebhookEvent_refund {fields : Dict} {payload : Json}
    (hpayload : (Json.obj fields).get "payload" (.obj []) = .ok payload) (s : Store) :
    processDomainWebhookEvent env (.str "refund.processed") (.obj fields) s =
      handleRefundProcessedEvent env payload s := by
  unfold processDomainWebhookEvent getValue
  simp [hpayload, bind, Except.bind, Except.mapError]

theorem faulted_not_processed (text : String) (record : WebhookEvent) :
    (Record.faulted text record).status ≠ "PROCESSED" := by
  show (if record.processingAttempts ≥ record.maxRetries then "DEAD_LETTER" else "FAILED") ≠ _
  split <;> decide

/-- **Where a refund is credited.**  Exactly one transaction carries the payment. -/
theorem credits_iff (hr : Referenced s) {paymentId : String} {op : FinancialOperation}
    {delivery : WebhookDelivery} {amount : ℤ} (hcaptured : CapturedUnder s paymentId op)
    (hrefund : RefundDelivered env settings s delivery paymentId amount) :
    Credits env settings s delivery op.mandateId amount ↔
      (s.transactionsByPayment paymentId).length = 1 := by
  obtain ⟨tx, htx, hpayment⟩ := hcaptured.transaction
  obtain ⟨hmem, hid⟩ := List.mem_filter.mp htx
  have hrow : tx ∈ s.transactionsByPayment paymentId :=
    List.mem_filter.mpr ⟨hmem, decide_eq_true hpayment⟩
  have hop : s.operations.find? tx.operationId = some op := by
    rw [of_decide_eq_true hid]
    exact hcaptured.stored
  obtain ⟨m, hm⟩ := hr.mandate op (Table.mem_of_find? hcaptured.stored)
  have hkey : op.mandateId = m.id := (Table.key_of_find? hm).symm
  obtain ⟨fields, payload, eventId, hbody, htype, hevent, hnew, hpayload, hrefs⟩ := hrefund.event
  obtain ⟨record, records, hhandled⟩ :=
    handleRazorpayWebhook_of_new hrefund.signed hbody hevent htype hnew
  unfold Credits
  rw [hhandled, settleDelivery, processDomainWebhookEvent_refund hpayload]
  constructor
  · rintro ⟨c, hc, hprocessed, -⟩
    by_contra hlength
    have hpos : 0 < (s.transactionsByPayment paymentId).length := List.length_pos_of_mem hrow
    have hmany : 1 < ((withRecords s records).transactionsByPayment paymentId).length := by
      show 1 < (s.transactionsByPayment paymentId).length
      omega
    obtain ⟨text, hraised⟩ := @handleRefund_of_many env _ _ _ _ hrefs hcaptured.nonempty hmany
    rw [hraised] at hc
    cases hc
    exact faulted_not_processed text record hprocessed
  · intro hlength
    obtain ⟨tx', htx'⟩ := List.length_eq_one_iff.mp hlength
    have hsame : tx = tx' := by
      rw [htx'] at hrow
      exact List.mem_singleton.mp hrow
    subst hsame
    have hone : (withRecords s records).transactionsByPayment paymentId = [tx] := htx'
    rw [handleRefund_of_one hrefs hcaptured.nonempty hone hop hm]
    refine ⟨_, rfl, rfl, fun id => ?_⟩
    show ((s.mandates.modify m.id _).find? id).map _ = _
    by_cases hmandate : id = op.mandateId
    · rw [hmandate, hkey, Table.find?_modify_self, ← hkey, hm]
      simp [Mandate.withCommitted]
    · rw [Table.find?_modify_of_ne _ _ _ (hkey ▸ hmandate)]
      simp only [hmandate, if_false]

end Refund

/-! ### Every state that is reached -/

/-- **Refund credit.**  In every state reached, processing a refund of a captured payment succeeds
and lowers the spend of the order's mandate, and of no other, by the amount, exactly if one
transaction alone carries the payment's id. -/
theorem refund_credited (env : Platform) (settings : Settings) (s : Store) (hr : Referenced s)
    (actions : List Action) (paymentId : String) (op : FinancialOperation)
    (delivery : WebhookDelivery) (amount : ℤ)
    (hcaptured : CapturedUnder ((controlPlane env settings).run s actions) paymentId op)
    (hrefund : RefundDelivered env settings ((controlPlane env settings).run s actions) delivery
      paymentId amount) :
    Credits env settings ((controlPlane env settings).run s actions) delivery op.mandateId amount ↔
      (((controlPlane env settings).run s actions).transactionsByPayment paymentId).length = 1 :=
  credits_iff (referenced_run hr actions) hcaptured hrefund

section Runs

open Sample

theorem referenced_store : Referenced store :=
  ⟨fun _ hm => absurd hm List.not_mem_nil, fun _ hm => absurd hm List.not_mem_nil⟩

/-- A refund of 100 on the captured payment, requested by the agent. -/
def requestRefund : Action :=
  .request
    { order "operation_R" 100 (by decide) (by decide) with
      operationType := .createRefund
      payload := [("payment_id", .str "pay_A")] }
    ⟨none, none, none⟩
    { inputs "operation_R" "" 100 with
      gateway := ⟨.error "", .error "", .ok ⟨"rfnd_1", 100, "INR", "processed"⟩⟩ }

/-- The gateway's event about a refund of 100 on the captured payment. -/
def refundProcessed : WebhookDelivery :=
  ⟨refundA, platform.hmacSha256Hex settings.razorpayWebhookSecret refundA, "evt_fresh"⟩

theorem refundDelivered {s : Store} (hnew : s.webhookEvents.find? "evt_fresh" = none) :
    RefundDelivered platform settings s refundProcessed "pay_A" 100 := by
  have hsigned : verifyDelivery platform settings refundProcessed = .ok () := by
    rw [verifyDelivery, if_neg (by decide +kernel)]
    rw [compareDigest, if_pos (by decide +kernel)]
    simp only [bind, Except.bind, refundProcessed, decide_true, ensure, if_true]
  have hfirst : ∀ record, s.webhookEvents.find? "evt_fresh" = some record →
      record.status ≠ "PROCESSED" := by
    intro record hfind
    rw [hnew] at hfind
    cases hfind
  exact ⟨hsigned, _, _, _, rfl, rfl, rfl, hfirst, rfl, rfl⟩

/-- The state after a list of actions of this world. -/
def reached (actions : List Action) : Store := (controlPlane platform settings).run store actions

/-- The order is stored with its captured payment, and no refund of it has been recorded. -/
def OrderCaptured (s : Store) : Prop :=
  (s.operations.find? "operation_A").map (fun op => (op.operationType, op.mandateId)) =
      some (.createOrder, "mnd_1") ∧
    (s.transactionsOf "operation_A").any (fun tx => tx.gatewayPaymentId = some "pay_A") = true ∧
    s.webhookEvents.find? "evt_fresh" = none

instance (s : Store) : Decidable (OrderCaptured s) := inferInstanceAs (Decidable (_ ∧ _ ∧ _))

/-- The payment was captured under the order the run stored. -/
theorem OrderCaptured.capturedUnder {s : Store} (h : OrderCaptured s) :
    ∃ op, op.mandateId = "mnd_1" ∧ CapturedUnder s "pay_A" op := by
  obtain ⟨hstored, htx, -⟩ := h
  obtain ⟨op, hop, hboth⟩ := Option.map_eq_some_iff.mp hstored
  obtain ⟨htype, hmandate⟩ := Prod.mk.inj hboth
  obtain ⟨tx, hmem, hpayment⟩ := List.any_eq_true.mp htx
  have hid : op.id = "operation_A" := Table.key_of_find? hop
  exact ⟨op, hmandate, by decide, htype, hid ▸ hop, tx, hid ▸ hmem, of_decide_eq_true hpayment⟩

/-- One order, captured once, and one refund of it. -/
theorem refund_credited_refundA :
    Credits platform settings (reached [requestA, deliver capturedA]) refundProcessed "mnd_1" 100 := by
  have hrun : OrderCaptured (reached [requestA, deliver capturedA]) ∧
      ((reached [requestA, deliver capturedA]).transactionsByPayment "pay_A").length = 1 := by
    decide +kernel
  obtain ⟨op, hmandate, hcaptured⟩ := hrun.1.capturedUnder
  have hcredited := (refund_credited platform settings store referenced_store
    [requestA, deliver capturedA] "pay_A" op refundProcessed 100 hcaptured
    (refundDelivered hrun.1.2.2)).mpr hrun.2
  rw [hmandate] at hcredited
  exact hcredited

/-- The refund is requested through the control plane: its transaction carries the payment's id
too, and the gateway's event about it is not credited. -/
theorem not_credited_of_requested_refund :
    ∃ op, CapturedUnder (reached [requestA, deliver capturedA, requestRefund]) "pay_A" op ∧
      RefundDelivered platform settings (reached [requestA, deliver capturedA, requestRefund])
        refundProcessed "pay_A" 100 ∧
      ¬ Credits platform settings (reached [requestA, deliver capturedA, requestRefund])
        refundProcessed op.mandateId 100 := by
  have hrun : OrderCaptured (reached [requestA, deliver capturedA, requestRefund]) ∧
      ((reached [requestA, deliver capturedA, requestRefund]).transactionsByPayment
        "pay_A").length ≠ 1 := by
    decide +kernel
  obtain ⟨op, -, hcaptured⟩ := hrun.1.capturedUnder
  have hdelivered : RefundDelivered platform settings
      (reached [requestA, deliver capturedA, requestRefund]) refundProcessed "pay_A" 100 :=
    refundDelivered hrun.1.2.2
  have hreferenced : Referenced (reached [requestA, deliver capturedA, requestRefund]) :=
    referenced_run referenced_store _
  refine ⟨op, hcaptured, hdelivered, fun hcredits => ?_⟩
  exact hrun.2 ((credits_iff hreferenced hcaptured hdelivered).mp hcredits)

end Runs

end MandatePlane.RefundCredit

import MandatePlane.DeploymentInvariants
import MandatePlane.HostileCalls
import MandatePlane.IdempotentReplies
import MandatePlane.ShowcaseBooks

/-!
# What the acts of the demonstration do

The terms of the seeded mandates never change, so that the second act is denied in every state
after a reset, whatever was done in between.

The first act makes up a capture for its order, and with it the order's id.  It settles
its operation exactly where the gateway has given the order this very id.
-/

namespace MandatePlane.ShowcaseActs

open DomainModel KeyedTable LabelledRun LedgerView JsonValue HostEnvironment HandlerPostings
open PolicyEngine OperationRoutes WebhookRoutes RazorpayClient MandateSteps ControlPlane AgentChat
open ActiveMandates EntryPoints TransactionLinks AgentRoutes DemoRoutes Deployment
open DeploymentInvariants IdempotentReplies HostileCalls

/-! ### The terms of the child mandate -/

/-- The child mandate is there with the ceiling it was seeded with. -/
def ChildTerms (s : Store) : Prop :=
  ∃ m, (terms s).find? childMandateId = some m ∧ m.maxAmountPerOp = 1000000

section Terms

variable {env : Platform} {settings : Settings} {host : Host} {P : Store → Call → Prop}
  {s s' : Store} {j : List JournalEntry}

theorem ChildTerms.of_terms (h : ChildTerms s) (hterms : terms s' = terms s) : ChildTerms s' := by
  unfold ChildTerms
  rw [hterms]
  exact h

theorem childTerms_seeded (inputs : ResetInputs) : ChildTerms (seededStore inputs) := by
  refine ⟨termsOf (childMandate inputs.child), ?_, rfl⟩
  rw [terms_find?]
  rfl

/-- **No step changes the ceiling.** -/
theorem childTerms_step (h : ChildTerms s) (hstep : TableStep env settings P s j s') :
    ChildTerms s' := by
  cases hstep with
  | called c hc =>
    obtain ⟨m, hm, hmax⟩ := h
    have hcall := answer_step env settings s c
    generalize answer env settings s c = done at hcall ⊢
    obtain ⟨s', events⟩ := done
    cases hcall with
    | control hcontrol => exact ⟨m, hcontrol.terms_kept hm, hmax⟩
    | silent => exact ⟨m, hm, hmax⟩
    | reissued hinsert =>
      exact ⟨m, Table.find?_insert_of_some (Table.mapRows_insert key_termsOf hinsert) hm, hmax⟩
  | captured hcaptured =>
    exact h.of_terms (terms_of_allotments (allotments_of_grants
      (processDomainWebhookEvent_spec hcaptured).explained.1.grants))
  | enrolled principals agents _ => exact h
  | cleared inputs _ => exact childTerms_seeded inputs

theorem childTerms_converge (h : ChildTerms s) (op : FinancialOperation) :
    ChildTerms (converge op s) := by
  have hterms : terms (converge op s) = terms (s.updateOperation op.id (.moveTo .succeeded)
      (FinancialOperation.moveTo_key .succeeded)) := terms_columns _ fun _ => rfl
  exact h.of_terms hterms

end Terms

/-! ### The second act -/

section Denied

variable {env : Platform} {settings : Settings} {host : Host}

/-- **The second act is denied in every state after a reset.**  Whatever the deployment did since,
it leaves the data set as it is, or adds one operation that is rejected, moves no counter, records
no transaction and makes no gateway call. -/
theorem second_act_denied (env : Platform) (settings : Settings) (host : Host) (d : Dataset)
    (reset : ResetInputs) (calls : List DeploymentCall) (inputs : ScenarioInputs) :
    let d' := (deployment env settings host).run d (.reset reset :: calls)
    let done := runScriptedDemoScenario env settings 2 inputs d'
    (done.dataset = d' ∧ done.journal = []) ∨
      (∃ response, done.answer = .ok response ∧ response.operationStatus = .policyRejected) ∧
        (∃ row, row.status = .policyRejected ∧
          done.dataset.store.operations.rows = d'.store.operations.rows ++ [row]) ∧
        (∃ row, done.journal = observed [.opened row, .posted row .policyRejected 0 0]) ∧
        done.dataset.store.mandates = d'.store.mandates ∧
        done.dataset.store.transactions = d'.store.transactions := by
  intro d' done
  by_cases hproduction : inProduction env settings = true
  · exact .inl ⟨by simp only [done, runScriptedDemoScenario, if_pos hproduction]; rfl,
      by simp only [done, runScriptedDemoScenario, if_pos hproduction]; rfl⟩
  · have hterms : ChildTerms d'.store := by
      have hreset : ((deployment env settings host).next d (.reset reset)).store =
          seededStore reset := by
        show (afterReset d (resetDemoDataset env settings reset)).1.store = _
        unfold resetDemoDataset
        rw [Bool.eq_false_of_not_eq_true hproduction]
        rfl
      have hseeded : ChildTerms ((deployment env settings host).next d (.reset reset)).store := by
        rw [hreset]
        exact childTerms_seeded reset
      exact deployment_keeps (fun _ _ _ h hstep => childTerms_step h hstep)
        (fun _ op h _ => childTerms_converge h op) hseeded calls
    obtain ⟨t, ht, hmax⟩ := hterms
    rw [terms_find?] at ht
    obtain ⟨m, hm, rfl⟩ := Option.map_eq_some_iff.mp ht
    have hact : done = actTwo env settings inputs d' := by
      show runScriptedDemoScenario env settings 2 inputs d' = _
      unfold runScriptedDemoScenario
      rw [if_neg hproduction, if_pos (.inr (.inl rfl)), hm, if_neg (by simp), if_neg (by decide),
        if_pos rfl]
    rw [hact]
    unfold actTwo
    split
    · exact .inl ⟨rfl, rfl⟩
    · rename_i op hop
      have habove : m.maxAmountPerOp < (order2 inputs).amount := by
        have hceiling : m.maxAmountPerOp = 1000000 := hmax
        show m.maxAmountPerOp < 65000000
        omega
      rcases request_outside hop hm (.inl habove) with ⟨existing, -, rfl⟩ | hdenied
      · exact .inl ⟨rfl, rfl⟩
      · obtain ⟨row, hevents⟩ := hdenied.events
        dsimp only
        rw [hevents]
        exact .inr ⟨⟨_, rfl, hdenied.status⟩, ⟨op.value, hdenied.status, hdenied.rows⟩, ⟨row, rfl⟩,
          hdenied.mandates, hdenied.transactions⟩

end Denied

/-! ### The first act -/

section MadeUp

variable {env : Platform} {settings : Settings} {s : Store}

theorem madeUpOrderId_truthy (op : FinancialOperation) :
    (Json.str (madeUpOrderId op)).truthy = true := by
  have hne : madeUpOrderId op ≠ "" := by
    intro h
    have hlength := congrArg String.length h
    simp [madeUpOrderId, toString] at hlength
  simpa [Json.truthy] using hne

/-- What the made-up event carries. -/
def madeUpPayload (op : FinancialOperation) : Json :=
  .obj [("payment", .obj [("entity", .obj [("id", .str s!"pay_demo_{firstEight op.operationId}"),
    ("order_id", .str (madeUpOrderId op)), ("amount", .int 650000),
    ("status", .str "captured")])])]

/-- A payment entity that names its order. -/
theorem capturedReferences_of_order {payload paymentEntity orderEntity orderId paymentId : Json}
    (hpayment : entity payload "payment" = .ok paymentEntity)
    (horder : entity payload "order" = .ok orderEntity)
    (horderId : getValue paymentEntity "order_id" .null = .ok orderId)
    (htruthy : orderId.truthy = true)
    (hpaymentId : getValue paymentEntity "id" .null = .ok paymentId) :
    capturedReferences payload = .ok (orderId, paymentId) := by
  unfold capturedReferences
  rw [hpayment, horder]
  simp only [bind, Except.bind, horderId, if_pos htruthy, hpaymentId]
  rfl

theorem capturedReferences_madeUp (op : FinancialOperation) :
    capturedReferences (madeUpPayload op) =
      .ok (.str (madeUpOrderId op), .str s!"pay_demo_{firstEight op.operationId}") :=
  capturedReferences_of_order rfl rfl rfl (madeUpOrderId_truthy op) rfl

/-- A capture of an order in flight is written. -/
theorem handlePaymentCapturedEvent_of_resolved {payload : Json} {eventType : String}
    {refs : Json × Json} {orderId : String} {tx : Transaction} {op : FinancialOperation}
    {gatewayPaymentId : Option String} (hrefs : capturedReferences payload = .ok refs)
    (hres : Resolved env s refs.1 s.transactionsByOrder orderId tx op)
    (hflight : op.status.inFlight = true)
    (hpid : capturedPaymentId env refs.2 tx = .ok gatewayPaymentId) :
    handlePaymentCapturedEvent env payload eventType s =
      .ok (capture op eventType orderId gatewayPaymentId s) := by
  have hidle : op.status ≠ .succeeded := by
    intro he
    rw [he] at hflight
    cases hflight
  have hvalid : StateMachine.validateTransition op.status .succeeded
      s!"Webhook event: {eventType}" = .ok () :=
    StateMachine.validateTransition_eq_ok.mpr
      (StateMachine.canTransition_succeeded.mpr (.inl hflight))
  unfold handlePaymentCapturedEvent
  rw [hrefs]
  simp only [bind, Except.bind, hres.truthy, Bool.not_true, Bool.false_eq_true, if_false,
    queryText_eq_ok.mpr hres.text, withOperation_eq_some.mpr ⟨hres.unique, hres.found⟩,
    if_neg hidle, hvalid, Except.mapError, hpid]
  rfl

theorem capturedPaymentId_text (env : Platform) (text : String) (tx : Transaction) :
    ∃ gatewayPaymentId, capturedPaymentId env (.str text) tx = .ok gatewayPaymentId := by
  unfold capturedPaymentId
  split
  · exact ⟨some text, rfl⟩
  · exact ⟨_, rfl⟩

/-- **The made-up capture** settles the operation of the order it names, if that is in flight. -/
theorem process_madeUp {op : FinancialOperation} {done : Store × List Event}
    (h : processDomainWebhookEvent env (.str "payment.captured") (madeUpCapture op) s = .ok done) :
    (done = (s, []) ∧ ∀ tx row, s.transactionsByOrder (madeUpOrderId op) = [tx] →
        s.operations.find? tx.operationId = some row → row.status.inFlight = false) ∨
      ∃ tx row paymentId, s.transactionsByOrder (madeUpOrderId op) = [tx] ∧
        s.operations.find? tx.operationId = some row ∧
        done = capture row "payment.captured" (madeUpOrderId op) paymentId s := by
  have h : handlePaymentCapturedEvent env (madeUpPayload op) "payment.captured" s = .ok done := h
  have hrefs := capturedReferences_madeUp op
  rcases handlePaymentCapturedEvent_spec h with
    rfl | ⟨refs, orderId, tx, row, paymentId, hrefs', hres, -, -, rfl⟩
  · refine .inl ⟨rfl, fun tx row htx hrow => ?_⟩
    by_contra hflight
    -- an operation in flight would have been settled
    obtain ⟨paymentId, hpid⟩ := capturedPaymentId_text env s!"pay_demo_{firstEight op.operationId}" tx
    have hres : Resolved env s (.str (madeUpOrderId op)) s.transactionsByOrder (madeUpOrderId op)
        tx row := ⟨madeUpOrderId_truthy op, rfl, htx, hrow⟩
    rw [handlePaymentCapturedEvent_of_resolved hrefs hres (by simpa using hflight) hpid] at h
    cases congrArg Prod.snd (Except.ok.inj h)
  · rw [hrefs] at hrefs'
    cases hrefs'
    have htext : madeUpOrderId op = orderId := Except.ok.inj hres.text
    subst htext
    exact .inr ⟨tx, row, paymentId, hres.unique, hres.found, rfl⟩

/-- The capture looks for one transaction. -/
theorem single_of_madeUp {op : FinancialOperation} {done : Store × List Event}
    (h : processDomainWebhookEvent env (.str "payment.captured") (madeUpCapture op) s = .ok done) :
    (s.transactionsByOrder (madeUpOrderId op)).length ≤ 1 := by
  have h : handlePaymentCapturedEvent env (madeUpPayload op) "payment.captured" s = .ok done := h
  unfold handlePaymentCapturedEvent at h
  rw [capturedReferences_madeUp] at h
  simp only [bind, Except.bind, madeUpOrderId_truthy, Bool.not_true, Bool.false_eq_true, if_false,
    queryText, bindText_str, Except.mapError] at h
  cases hrows : oneOrNone (s.transactionsByOrder (madeUpOrderId op)) with
  | error _ =>
    unfold withOperation at h
    rw [hrows] at h
    cases h
  | ok row =>
    rw [oneOrNone_eq_ok] at hrows
    rw [hrows]
    cases row with
    | none => exact Nat.zero_le 1
    | some _ => exact le_rfl

end MadeUp

/-! ### The order of the first act -/

section Order

variable {env : Platform} {settings : Settings} {s : Store}

/-- How the request of a new order ends: nothing is created at the gateway, or the order is
stored with its transaction. -/
structure Placed (inputs : RequestInputs) (s : Store) (op : Committed FinancialOperation)
    (order : RazorpayOrderResponse) : Prop where
  answered : inputs.gateway.createOrder = .ok order
  status : op.value.status = .executing
  transactions : ∃ tx, op.store.transactions = s.transactions ++ [tx] ∧
    tx.gatewayOrderId = some order.id ∧ tx.operationId = inputs.id
  called : ∃ row call, Event.gatewayCall row call ∈ op.events

structure NotPlaced (inputs : RequestInputs) (s : Store) (op : Committed FinancialOperation) :
    Prop where
  status : op.value.status ≠ .succeeded
  transactions : op.store.transactions = s.transactions
  uncalled : ∀ order, inputs.gateway.createOrder = .ok order →
    ∀ row call, Event.gatewayCall row call ∉ op.events

theorem executeOrder_cases (env : Platform) (gateway : GatewayAnswers) (mandate : Mandate)
    {operation : FinancialOperation} (payload : Dict) (s : Store)
    (htype : operation.operationType = .createOrder) :
    (∃ text, executeGatewayOperation env gateway mandate operation payload s =
        ⟨operation.moveToWith .failed (some text),
          ((s.updateMandate mandate.id (Mandate.release operation.amount)).updateOperation
            operation.id (.moveToWith .failed (some text))).audit (releaseAudit mandate operation),
          (attemptGateway env gateway operation payload).1.map (Event.gatewayCall operation) ++
            [.posted operation .failed (-operation.amount) 0]⟩ ∧
        ((attemptGateway env gateway operation payload).1 = [] ∨
          gateway.createOrder = .error text)) ∨
      ∃ order tx call, gateway.createOrder = .ok order ∧ tx.gatewayOrderId = some order.id ∧
        tx.operationId = operation.id ∧
        executeGatewayOperation env gateway mandate operation payload s =
          ⟨operation.moveTo .executing,
            (s.addTransaction tx).updateOperation operation.id (.moveTo .executing),
            [.gatewayCall operation call, .posted operation .executing 0 0]⟩ := by
  have hattempt : attemptGateway env gateway operation payload =
      attemptOrder env gateway operation payload := by
    unfold attemptGateway
    rw [htype]
  unfold executeGatewayOperation
  rw [hattempt]
  unfold attemptOrder
  split
  · exact .inl ⟨_, rfl, .inl rfl⟩
  · cases horder : gateway.createOrder with
    | error text => exact .inl ⟨text, rfl, .inr rfl⟩
    | ok order => exact .inr ⟨order, _, _, rfl, rfl, rfl, rfl⟩

/-- **The request of a new order** is not placed, or is placed and waits for its capture. -/
theorem actOnDecision_order_cases {payload : OperationCreate} {inputs : RequestInputs}
    {mandate : Mandate} {operation : FinancialOperation} {result : PolicyEvaluationResult}
    {s₁ : Store} (htype : operation.operationType = .createOrder) (hid : operation.id = inputs.id)
    (htransactions : s₁.transactions = s.transactions) :
    NotPlaced inputs s (actOnDecision env payload inputs mandate operation result s₁) ∨
      ∃ order, Placed inputs s (actOnDecision env payload inputs mandate operation result s₁)
        order := by
  unfold actOnDecision
  cases result.decision with
  | deny =>
    exact .inl ⟨(by decide : OperationStatus.policyRejected ≠ .succeeded), htransactions,
      fun _ _ row call hm => by simp at hm⟩
  | requireHumanReview =>
    exact .inl ⟨(by decide : OperationStatus.requiresApproval ≠ .succeeded), htransactions,
      fun _ _ row call hm => by simp at hm⟩
  | allow =>
    dsimp only
    split
    · exact .inl ⟨(by decide : OperationStatus.policyRejected ≠ .succeeded), htransactions,
        fun _ _ row call hm => by simp at hm⟩
    · rename_i s₂ hreserve
      have hreserved : s₂.transactions = s.transactions := by
        unfold reserveBudget at hreserve
        split at hreserve
        · cases hreserve
        · split at hreserve
          · cases hreserve
            exact htransactions
          · cases hreserve
      have hreserved' : (operation.moveTo .reserved).operationType = .createOrder := htype
      rcases executeOrder_cases env inputs.gateway mandate payload.payload
          ((s₂.updateOperation operation.id (.moveTo .reserved)).audit
            (reserveAudit mandate operation)) hreserved' with
        ⟨text, hdone, hcalls⟩ | ⟨order, tx, call, horder, htx, hlink, hdone⟩
      · refine .inl ⟨?_, ?_, fun order horder row call hm => ?_⟩
        · rw [hdone]
          exact (by decide : OperationStatus.failed ≠ .succeeded)
        · rw [hdone]
          exact hreserved
        · rw [hdone] at hm
          rcases hcalls with hnone | herror
          · rw [hnone] at hm
            simp at hm
          · rw [horder] at herror
            cases herror
      · refine .inr ⟨order, horder, ?_, ⟨tx, ?_, htx, hlink.trans hid⟩, operation.moveTo .reserved,
          call, ?_⟩
        · rw [hdone]
          rfl
        · rw [hdone]
          exact congrArg (· ++ [tx]) hreserved
        · rw [hdone]
          simp

/-- What the request of a new order stores. -/
structure OrderRequested (inputs : RequestInputs) (s : Store) (op : Committed FinancialOperation) :
    Prop where
  id : op.value.id = inputs.id
  operationId : op.value.operationId = inputs.operationId
  fresh : s.operations.find? inputs.id = none
  stored : op.store.operations.find? inputs.id = some op.value
  ended : NotPlaced inputs s op ∨ ∃ order, Placed inputs s op order

theorem orderRequested_of_fresh {payload : OperationCreate} {headers : CallerAuth.CallerHeaders}
    {inputs : RequestInputs} {op : Committed FinancialOperation}
    (h : requestFinancialOperation env settings payload headers inputs s = .ok op)
    (htype : payload.operationType = .createOrder)
    (hfresh : s.operationByIdempotencyKey payload.idempotencyKey = .ok none) :
    OrderRequested inputs s op := by
  have hrow := row_of_request h
  rcases request_returned h with ⟨existing, hexisting, -⟩ | ⟨agent, mandate, s₁, result, hev, rfl⟩
  · rw [hfresh] at hexisting
    cases hexisting
  · obtain ⟨-, hnone, -, -, -, htransactions, -⟩ := ledger_insertOperation hev.inserted
    have horder : orderOf (actOnDecision env payload inputs mandate
        (withDetails result (newOperation env payload inputs)) result
          (recordEvaluation payload (newOperation env payload inputs) result s₁)).value =
        orderOf (withDetails result (newOperation env payload inputs)) := actOnDecision_order _ _ _
    have hid := congrArg FinancialOperation.id horder
    refine ⟨hid, congrArg FinancialOperation.operationId horder, ?_, ?_, ?_⟩
    · rw [holds_find?] at hnone
      exact Option.map_eq_none_iff.mp hnone
    · rw [← hrow]
      exact congrArg _ hid.symm
    · exact actOnDecision_order_cases htype rfl htransactions

/-- A capture moves its operation, and no other. -/
theorem find?_capture {row : FinancialOperation} {eventType orderId : String}
    {paymentId : Option String} (id : String) :
    (capture row eventType orderId paymentId s).1.operations.find? id =
      if id = row.id then (s.operations.find? row.id).map (.moveTo .succeeded)
        else s.operations.find? id := by
  have hbudget : (captureBudget row s).1.operations = s.operations := by
    unfold captureBudget
    split
    · rfl
    · split <;> rfl
  show ((captureBudget row s).1.operations.modify row.id (.moveTo .succeeded)
    (FinancialOperation.moveTo_key .succeeded)).find? id = _
  rw [Table.find?_modify, hbudget]

/-- The operation is stored as the request answered it. -/
def AsRequested (op : Committed FinancialOperation) (s : Store) : Prop :=
  s.operations.find? op.value.id = some op.value

theorem AsRequested.status {op : Committed FinancialOperation} (h : AsRequested op s) :
    currentStatus s op.value = op.value.status := by
  have hfind : s.operations.find? op.value.id = some op.value := h
  unfold currentStatus
  rw [hfind]

/-- **The made-up capture settles the new order where the gateway gave it the made-up id**, and
leaves it as it was requested where it did not. -/
theorem captured_cases {inputs : RequestInputs} {op : Committed FinancialOperation}
    {done : Store × List Event} (hsound : Sound s) (hrequested : OrderRequested inputs s op)
    (hcaptured : processDomainWebhookEvent env (.str "payment.captured") (madeUpCapture op.value)
      op.store = .ok done) :
    currentStatus done.1 op.value = .succeeded ∧
        (∃ row call, Event.gatewayCall row call ∈ op.events) ∧
        (∃ order, inputs.gateway.createOrder = .ok order ∧ order.id = madeUpOrderId op.value) ∨
      AsRequested op done.1 ∧ op.value.status ≠ .succeeded ∧
        ∀ order, inputs.gateway.createOrder = .ok order →
          (∃ row call, Event.gatewayCall row call ∈ op.events) →
            order.id ≠ madeUpOrderId op.value := by
  have hstored : op.store.operations.find? op.value.id = some op.value := by
    rw [hrequested.id]
    exact hrequested.stored
  -- rows that were there before belong to operations that were there before
  have haside : ∀ tx ∈ s.transactions, tx.operationId ≠ op.value.id := by
    intro tx htx he
    obtain ⟨row, hrow⟩ := stored_of_transaction hsound htx
    rw [he, hrequested.id, hrequested.fresh] at hrow
    cases hrow
  have hkept : (∀ tx ∈ op.store.transactionsByOrder (madeUpOrderId op.value),
      tx.operationId ≠ op.value.id) → AsRequested op done.1 := by
    intro hrows
    rcases process_madeUp hcaptured with ⟨hsame, -⟩ | ⟨tx, row, paymentId, hunique, hrow, hdone⟩
    · rw [hsame]
      exact hstored
    · have hkey : row.id = tx.operationId := Table.key_of_find? hrow
      have hne := hrows tx (hunique ▸ List.mem_singleton_self tx)
      rw [hdone, AsRequested, find?_capture, if_neg (hkey ▸ hne.symm)]
      exact hstored
  rcases hrequested.ended with hnot | ⟨order, hplaced⟩
  · refine .inr ⟨hkept fun tx htx => haside tx (hnot.transactions ▸ List.mem_of_mem_filter htx),
      hnot.status, fun order horder ⟨row, call, hcall⟩ => ?_⟩
    exact absurd hcall (hnot.uncalled order horder row call)
  · obtain ⟨tx, htransactions, htx, hlink⟩ := hplaced.transactions
    have hrows : op.store.transactionsByOrder (madeUpOrderId op.value) =
        s.transactionsByOrder (madeUpOrderId op.value) ++
          [tx].filter fun tx => tx.gatewayOrderId = some (madeUpOrderId op.value) := by
      unfold Store.transactionsByOrder
      rw [htransactions, List.filter_append]
    by_cases hid : order.id = madeUpOrderId op.value
    · refine .inl ⟨?_, hplaced.called, order, hplaced.answered, hid⟩
      have hsingle := single_of_madeUp hcaptured
      rw [List.filter_cons_of_pos (by simp [htx, hid])] at hrows
      have hnil : s.transactionsByOrder (madeUpOrderId op.value) = [] := by
        rw [hrows, List.length_append] at hsingle
        exact List.eq_nil_of_length_eq_zero (by simpa using hsingle)
      rw [hnil] at hrows
      have hfind : op.store.operations.find? tx.operationId = some op.value := by
        rw [hlink]
        exact hrequested.stored
      rcases process_madeUp hcaptured with ⟨-, hidle⟩ | ⟨tx', row, paymentId, hunique, hrow, hdone⟩
      · have hflight := hidle tx op.value hrows hfind
        rw [hplaced.status] at hflight
        cases hflight
      · rw [hrows] at hunique
        cases hunique
        rw [hfind] at hrow
        cases hrow
        rw [hdone, currentStatus, find?_capture, if_pos rfl, hstored]
        rfl
    · refine .inr ⟨hkept fun tx' htx' => ?_, ?_, fun order' horder' _ => ?_⟩
      · rw [hrows, List.filter_cons_of_neg (by simp [htx, hid]), List.filter_nil,
          List.append_nil] at htx'
        exact haside tx' (List.mem_of_mem_filter htx')
      · rw [hplaced.status]
        exact (by decide : OperationStatus.executing ≠ .succeeded)
      · rw [hplaced.answered] at horder'
        cases horder'
        exact hid

/-- The capture calls no gateway. -/
theorem madeUp_uncalled {op row : FinancialOperation} {call : GatewayCall} {s' : Store}
    {events : List Event}
    (h : processDomainWebhookEvent env (.str "payment.captured") (madeUpCapture op) s =
      .ok (s', events)) : Event.gatewayCall row call ∉ events := by
  rcases process_madeUp h with ⟨hdone, -⟩ | ⟨tx, settled, paymentId, -, -, hdone⟩
  · cases hdone
    exact List.not_mem_nil
  · have hevents : events = [(captureBudget settled s).2] := congrArg Prod.snd hdone
    rw [hevents, List.mem_singleton]
    intro he
    unfold captureBudget at he
    split at he
    · cases he
    · split at he <;> cases he

/-- An act that is answered has requested its operation and processed the capture. -/
theorem answered_actOne {inputs : ScenarioInputs} {d : Dataset}
    {response : DemoScenarioRunResponse}
    (h : (actOne env settings inputs d).answer = .ok response) :
    ∃ op s' events, requestAct env settings (order1 inputs) inputs d.store = .ok op ∧
      processDomainWebhookEvent env (.str "payment.captured") (madeUpCapture op.value) op.store =
        .ok (s', events) ∧
      (actOne env settings inputs d).journal = observed (op.events ++ events) ∧
      (actOne env settings inputs d).dataset.store = s' ∧
      response.operationStatus = currentStatus s' op.value := by
  cases hop : requestAct env settings (order1 inputs) inputs d.store with
  | error refusal =>
    unfold actOne at h
    rw [hop] at h
    cases h
  | ok op =>
    cases hcaptured : processDomainWebhookEvent env (.str "payment.captured")
        (madeUpCapture op.value) op.store with
    | error fault =>
      unfold actOne at h
      rw [hop] at h
      dsimp only at h
      rw [hcaptured] at h
      cases h
    | ok done =>
      obtain ⟨s', events⟩ := done
      unfold actOne at h ⊢
      rw [hop] at h ⊢
      dsimp only at h ⊢
      rw [hcaptured] at h ⊢
      cases h
      exact ⟨op, s', events, rfl, hcaptured, rfl, rfl, rfl⟩

/-- **The first act settles its operation exactly where the gateway gives the order the made-up
id**, in every state that a deployment reaches.  Where it does not, the operation stays as the
request left it. -/
theorem first_act_settles_iff (env : Platform) (settings : Settings) (host : Host) (d : Dataset)
    (hoperations : d.store.operations.rows = []) (htransactions : d.store.transactions = [])
    (calls : List DeploymentCall) (inputs : ScenarioInputs) {response : DemoScenarioRunResponse}
    (hfresh : ((deployment env settings host).run d calls).store.operationByIdempotencyKey
      (order1 inputs).idempotencyKey = .ok none)
    (hanswer : (actOne env settings inputs ((deployment env settings host).run d calls)).answer =
      .ok response) :
    let d' := (deployment env settings host).run d calls
    let done := actOne env settings inputs d'
    (response.operationStatus = .succeeded ↔
        (∃ row call, .observed (.gatewayCall row call) ∈ done.journal) ∧
        ∃ order, inputs.request.gateway.createOrder = .ok order ∧
          order.id = s!"order_mock_{firstEight inputs.request.operationId}") ∧
      ∃ op, requestAct env settings (order1 inputs) inputs d'.store = .ok op ∧
        (response.operationStatus ≠ .succeeded →
          response.operationStatus = op.value.status ∧
            done.dataset.store.operations.find? op.value.id = some op.value) := by
  intro d' done
  have hsound : Sound d'.store :=
    sound_run env settings host (sound_empty hoperations htransactions) calls
  obtain ⟨op, s', events, hop, hcaptured, hjournal, hstore, hstatus⟩ := answered_actOne hanswer
  have hrequested := orderRequested_of_fresh hop rfl hfresh
  have hmadeUp : madeUpOrderId op.value =
      s!"order_mock_{firstEight inputs.request.operationId}" := by
    unfold madeUpOrderId
    rw [hrequested.operationId]
  have hcalled : (∃ row call, .observed (.gatewayCall row call) ∈ done.journal) ↔
      ∃ row call, Event.gatewayCall row call ∈ op.events := by
    rw [hjournal]
    refine exists_congr fun row => exists_congr fun call => ?_
    simp [observed, madeUp_uncalled hcaptured]
  rw [hcalled, ← hmadeUp, hstatus, hstore]
  rcases captured_cases hsound hrequested hcaptured with
    ⟨hsettled, hplaced⟩ | ⟨hkept, hopen, hother⟩
  · exact ⟨iff_of_true hsettled hplaced, op, hop, fun hne => absurd hsettled hne⟩
  · refine ⟨iff_of_false ?_ ?_, op, hop, fun _ => ⟨hkept.status, hkept⟩⟩
    · rw [hkept.status]
      exact hopen
    · rintro ⟨hevent, order, horder, hid⟩
      exact hother order horder hevent hid

end Order

/-! ### With the ids of the test double -/

namespace Sample

open ControlPlane.Sample Deployment.Sample ShowcaseBooks.Sample

/-- A first act whose order gets an id as the test double makes it up. -/
def doubled : ScenarioInputs :=
  { act true with request := inputs "operation_A" "order_mock_0123456789abcd" 200000 }

/-- The small world after a reset. -/
def shown : Dataset := (deployment platform settings host).run start [.reset resetInputs]

theorem freshKey : shown.store.operationByIdempotencyKey (order1 doubled).idempotencyKey =
    .ok none := rfl

end Sample

open Sample ControlPlane.Sample Deployment.Sample ShowcaseBooks.Sample in
theorem first_act_stays_executing : ∃ response op,
    (actOne platform settings doubled shown).answer = .ok response ∧
      response.operationStatus = .executing ∧
      (actOne platform settings doubled shown).dataset.store.operations.find? op.id = some op ∧
      op.status = .executing := by
  cases hanswer : (actOne platform settings doubled shown).answer with
  | error refusal =>
    have hok : (actOne platform settings doubled shown).answer.isOk = true := by decide +kernel
    rw [hanswer] at hok
    cases hok
  | ok response =>
    obtain ⟨hsettles, op, hop, hkept⟩ := first_act_settles_iff platform settings host start rfl rfl
      [.reset resetInputs] doubled freshKey hanswer
    have hopen : response.operationStatus ≠ .succeeded := by
      intro hstatus
      obtain ⟨-, order, horder, hid⟩ := hsettles.mp hstatus
      cases horder
      revert hid
      decide
    have hexecuting : (requestAct platform settings (order1 doubled) doubled
        shown.store).toOption.map (fun op => op.value.status) = some .executing := by
      decide +kernel
    have hrequested : requestAct platform settings (order1 doubled) doubled shown.store = .ok op :=
      hop
    rw [hrequested] at hexecuting
    have hstatus : op.value.status = .executing := Option.some.inj hexecuting
    obtain ⟨hanswered, hfind⟩ := hkept hopen
    exact ⟨response, op.value, rfl, hanswered.trans hstatus, hfind, hstatus⟩

end MandatePlane.ShowcaseActs

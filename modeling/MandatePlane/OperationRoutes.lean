import MandatePlane.CallerAuth
import MandatePlane.PolicyEngine
import MandatePlane.RazorpayClient

/-!
# The operation endpoints

`request_financial_operation`, `human_approve_operation`, `verify_payment` and the
gateway execution the first two share, translated statement by statement.  Fresh
identifiers, the clock, the rate limiter's and the gateway's answers are inputs.

A handler that raises rolls the session back, so it is a `Refusal` and keeps no
store.  A raise inside the `try` block of the gateway execution is caught there:
the reservation is released and the operation ends FAILED.
-/

namespace MandatePlane.OperationRoutes

open DomainModel KeyedTable JsonValue HostEnvironment PolicyEngine RazorpayClient CallerAuth

/-! ### Request bodies -/

/-- `OperationCreate`, with the bounds pydantic checks before the handler runs. -/
structure OperationCreate where
  idempotencyKey : String
  agentId : String
  mandateId : String
  operationType : OperationType
  amount : ℤ
  currency : String
  payload : Dict
  key_length : 8 ≤ idempotencyKey.length ∧ idempotencyKey.length ≤ 128
  amount_pos : 0 < amount

structure HumanApprovalRequest where
  approvedById : String
  approved : Bool
  reason : Option String

structure PaymentVerifyRequest where
  razorpayOrderId : String
  razorpayPaymentId : String
  razorpaySignature : String

/-- What a request meets when it is processed. -/
structure RequestInputs where
  id : String
  operationId : String
  createdAt : ℤ
  now : ℤ
  rateLimit : RateLimitResult
  gateway : GatewayAnswers

/-! ### The conditional reservation -/

/-- `reserve_budget`: the UPDATE matches its row only while the limit still permits the amount. -/
def reserveBudget (s : Store) (mandateId : String) (amount : ℤ) : Option Store :=
  match s.mandates.find? mandateId with
  | none => none
  | some m =>
    if m.currentAggregateSpend + m.reservedSpend + amount ≤ m.aggregateSpendLimit then
      some (s.updateMandate mandateId (Mandate.reserve amount))
    else none

/-! ### Gateway execution -/

/-- How the `try` block of the gateway execution ends when nothing is raised. -/
inductive Dispatched where
  | executing (tx : Transaction)
  | settled (tx : Transaction)
  | notDispatched

def attemptOrder (env : Platform) (gateway : GatewayAnswers) (operation : FinancialOperation)
    (payload : Dict) : List GatewayCall × Except String Dispatched :=
  match orderRequest env operation.amount operation.currency
      (dictGet payload "receipt"
        (.str s!"rcpt_{String.ofList (operation.operationId.toList.take 10)}"))
      [("operation_id", operation.operationId), ("agent_id", operation.agentId)] with
  | .error text => ([], .error text)
  | .ok call => ([call], gateway.createOrder.map fun rzpOrder => .executing
    { operationId := operation.id
      gatewayOrderId := some rzpOrder.id
      gatewayPaymentId := none
      gatewayRefundId := none
      gatewayPaymentLinkId := none
      gatewayPaymentLinkUrl := none
      amount := rzpOrder.amount
      currency := rzpOrder.currency
      status := .created })

def attemptPaymentLink (env : Platform) (gateway : GatewayAnswers)
    (operation : FinancialOperation) (payload : Dict) :
    List GatewayCall × Except String Dispatched :=
  match paymentLinkRequest env operation.amount operation.currency
      (dictGet payload "description" (.str s!"Mandate Link for {operation.agentId}"))
      (dictGet payload "customer_name" .null) (dictGet payload "customer_email" .null)
      (dictGet payload "customer_contact" .null)
      [("operation_id", operation.operationId)] with
  | .error text => ([], .error text)
  | .ok call => ([call], gateway.createPaymentLink.map fun rzpLink => .executing
    { operationId := operation.id
      gatewayOrderId := none
      gatewayPaymentId := none
      gatewayRefundId := none
      gatewayPaymentLinkId := some rzpLink.id
      gatewayPaymentLinkUrl := some rzpLink.shortUrl
      amount := rzpLink.amount
      currency := rzpLink.currency
      status := .created })

def attemptRefund (env : Platform) (gateway : GatewayAnswers) (operation : FinancialOperation)
    (payload : Dict) : List GatewayCall × Except String Dispatched :=
  let paymentId := dictGet payload "payment_id" .null
  if paymentId.truthy then
    match textField env "RazorpayRefundRequest" "payment_id" paymentId with
    | .error text => ([], .error text)
    | .ok paymentId =>
      ([.createRefund paymentId operation.amount [("operation_id", operation.operationId)]],
        gateway.createRefund.map fun rzpRefund => .settled
          { operationId := operation.id
            gatewayOrderId := none
            gatewayPaymentId := some paymentId
            gatewayRefundId := some rzpRefund.id
            gatewayPaymentLinkId := none
            gatewayPaymentLinkUrl := none
            amount := rzpRefund.amount
            currency := rzpRefund.currency
            status := if rzpRefund.status = "processed" then .refunded else .created })
  else ([], .error "Refund requires payment_id in payload")

/-- The `try` block up to its writes: the gateway calls it made and how they ended.  Types
without a branch of their own fall through. -/
def attemptGateway (env : Platform) (gateway : GatewayAnswers) (operation : FinancialOperation)
    (payload : Dict) : List GatewayCall × Except String Dispatched :=
  match operation.operationType with
  | .createOrder => attemptOrder env gateway operation payload
  | .createPaymentLink => attemptPaymentLink env gateway operation payload
  | .createRefund => attemptRefund env gateway operation payload
  | .capturePayment => ([], .ok .notDispatched)
  | .cancelPaymentLink => ([], .ok .notDispatched)

def releaseAudit (mandate : Mandate) (operation : FinancialOperation) : AuditEvent where
  action := .budgetReleased
  actorId := "POLICY_ENGINE"
  actorType := "SYSTEM"
  resourceId := mandate.id
  resourceType := "MANDATE"
  payload := [("released_amount", .int operation.amount),
    ("reason", .str "Gateway dispatch failure")]
  previousState := none
  newState := none

/-- `_execute_gateway_operation`. -/
def executeGatewayOperation (env : Platform) (gateway : GatewayAnswers) (mandate : Mandate)
    (operation : FinancialOperation) (payload : Dict) (s : Store) : Committed FinancialOperation :=
  let attempt := attemptGateway env gateway operation payload
  let calls := attempt.1.map (Event.gatewayCall operation)
  match attempt.2 with
  | .ok .notDispatched => ⟨operation, s, calls⟩
  | .ok (.executing tx) =>
    ⟨operation.moveTo .executing,
      (s.addTransaction tx).updateOperation operation.id (.moveTo .executing),
      calls ++ [.posted operation .executing 0 0]⟩
  | .ok (.settled tx) =>
    ⟨operation.moveTo .succeeded,
      ((s.addTransaction tx).updateOperation operation.id (.moveTo .succeeded)).updateMandate
        mandate.id (Mandate.commitDispatched operation.amount),
      calls ++ [.posted operation .succeeded (-operation.amount) operation.amount]⟩
  | .error text =>
    ⟨operation.moveToWith .failed (some text),
      ((s.updateMandate mandate.id (Mandate.release operation.amount)).updateOperation
        operation.id (.moveToWith .failed (some text))).audit (releaseAudit mandate operation),
      calls ++ [.posted operation .failed (-operation.amount) 0]⟩

/-! ### Requesting an operation -/

/-- Authentication runs only when a credential header is present. -/
def authenticateRequest (env : Platform) (settings : Settings) (payload : OperationCreate)
    (headers : CallerHeaders) (agents : Table Agent) : Except Refusal Unit :=
  if (truthyHeader headers.xAgentKey).isSome || (truthyHeader headers.authorization).isSome then do
    let xAgentId := (truthyHeader headers.xAgentId).getD payload.agentId
    let activeAgent ← authenticateAgentCaller env settings agents
      { headers with xAgentId := some xAgentId } false
    match activeAgent with
    | none => return ()
    | some agent =>
      ensure (agent.id = payload.agentId) (.http 403
        (s!"Agent identity mismatch: Authenticated as '{agent.id}', " ++
          s!"but payload requested '{payload.agentId}'"))
  else .ok ()

/-- The row a request inserts. -/
def newOperation (env : Platform) (payload : OperationCreate) (inputs : RequestInputs) :
    FinancialOperation where
  id := inputs.id
  operationId := inputs.operationId
  idempotencyKey := payload.idempotencyKey
  agentId := payload.agentId
  mandateId := payload.mandateId
  operationType := payload.operationType
  status := .initiated
  amount := payload.amount
  currency := env.upper payload.currency
  payload := payload.payload
  policyEvaluationDetails := none
  errorMessage := none
  approvedById := none
  createdAt := inputs.createdAt

def evaluationAudit (payload : OperationCreate) (operation : FinancialOperation)
    (result : PolicyEvaluationResult) : AuditEvent where
  action := .policyEvaluated
  actorId := payload.agentId
  actorType := "AGENT"
  resourceId := operation.operationId
  resourceType := "FINANCIAL_OPERATION"
  payload := [("amount", .int operation.amount), ("decision", .str result.decision.value),
    ("reasons", textList (if result.approved then result.reviewReasons
      else result.rejectionReasons))]
  previousState := none
  newState := some [("status", .str operation.status.value)]

def reserveAudit (mandate : Mandate) (operation : FinancialOperation) : AuditEvent where
  action := .budgetReserved
  actorId := "POLICY_ENGINE"
  actorType := "SYSTEM"
  resourceId := mandate.id
  resourceType := "MANDATE"
  payload := [("reserved_amount", .int operation.amount),
    ("operation_id", .str operation.operationId)]
  previousState := none
  -- the session's copy of the mandate already shows the reservation, so the amount counts twice
  newState := some [("reserved_spend",
    .int ((mandate.reserve operation.amount).reservedSpend + operation.amount))]

/-- The text of a reservation lost to a concurrent request. -/
def budgetExhausted : String :=
  "Mandate aggregate budget limit exhausted during concurrent reservation"

/-- The result as it is rewritten when the reservation is lost. -/
def withReservationLost (result : PolicyEvaluationResult) : PolicyEvaluationResult :=
  { result with
    decision := .deny
    approved := false
    rejectionReasons := result.rejectionReasons ++ [budgetExhausted] }

/-- The engine is called without a context, so no session reaches the hierarchical rule. -/
def requestEvaluation (inputs : RequestInputs) : EvaluationInputs :=
  { now := inputs.now, rateLimit := inputs.rateLimit, context := none }

/-- `operation.policy_evaluation_details = result.model_dump()`. -/
def withDetails (result : PolicyEvaluationResult) (op : FinancialOperation) : FinancialOperation :=
  { op with policyEvaluationDetails := some result }

/-- The rejection of an operation whose reservation was lost. -/
def lostReservation (result : PolicyEvaluationResult) (op : FinancialOperation) :
    FinancialOperation :=
  withDetails (withReservationLost result) (op.moveToWith .policyRejected (some budgetExhausted))

theorem lostReservation_key (result : PolicyEvaluationResult) (op : FinancialOperation) :
    Keyed.key (lostReservation result op) = Keyed.key op := key_kept rfl

/-- Step 3: the evaluation is stored with the operation and audited. -/
def recordEvaluation (payload : OperationCreate) (operation : FinancialOperation)
    (result : PolicyEvaluationResult) (s : Store) : Store :=
  (s.updateOperation operation.id (withDetails result)).audit
    (evaluationAudit payload operation result)

/-- Steps 4 to 7: what follows from the decision on `operation`. -/
def actOnDecision (env : Platform) (payload : OperationCreate) (inputs : RequestInputs)
    (mandate : Mandate) (operation : FinancialOperation) (result : PolicyEvaluationResult)
    (s : Store) : Committed FinancialOperation :=
  match result.decision with
  | .deny =>
    let message := join "; " result.rejectionReasons
    ⟨operation.moveToWith .policyRejected (some message),
      s.updateOperation operation.id (.moveToWith .policyRejected (some message)),
      [.opened operation, .posted operation .policyRejected 0 0]⟩
  | .requireHumanReview =>
    let message := join "; " result.reviewReasons
    ⟨operation.moveToWith .requiresApproval (some message),
      s.updateOperation operation.id (.moveToWith .requiresApproval (some message)),
      [.opened operation, .posted operation .requiresApproval 0 0]⟩
  | .allow =>
    match reserveBudget s mandate.id payload.amount with
    | none =>
      ⟨lostReservation result operation, s.updateOperation operation.id (lostReservation result),
        [.opened operation, .posted operation .policyRejected 0 0]⟩
    | some s =>
      let s := (s.updateOperation operation.id (.moveTo .reserved)).audit
        (reserveAudit mandate operation)
      let done := executeGatewayOperation env inputs.gateway mandate
        (operation.moveTo .reserved) payload.payload s
      { done with
        events := .opened operation :: .posted operation .reserved operation.amount 0 ::
          done.events }

/-- Steps 3 to 7 of the pipeline: `operation` has just been inserted into `s`. -/
def decideOperation (env : Platform) (payload : OperationCreate) (inputs : RequestInputs)
    (agent : Agent) (mandate : Mandate) (operation : FinancialOperation) (s : Store) :
    Except Refusal (Committed FinancialOperation) := do
  let result ← evaluate env (requestEvaluation inputs) agent mandate operation
  return actOnDecision env payload inputs mandate (withDetails result operation) result
    (recordEvaluation payload operation result s)

/-- `POST /operations`. -/
def requestFinancialOperation (env : Platform) (settings : Settings) (payload : OperationCreate)
    (headers : CallerHeaders) (inputs : RequestInputs) (s : Store) :
    Except Refusal (Committed FinancialOperation) := do
  authenticateRequest env settings payload headers s.agents
  match ← s.operationByIdempotencyKey payload.idempotencyKey with
  | some existingOp => return ⟨existingOp, s, []⟩
  | none =>
    let mandate ← orRefuse (s.mandates.find? payload.mandateId) (.http 404 "Mandate not found")
    let agent ← orRefuse (s.agents.find? payload.agentId) (.http 404 "Agent not found")
    let operation := newOperation env payload inputs
    let s ← orRefuse (s.insertOperation operation) .serverError
    decideOperation env payload inputs agent mandate operation s

/-! ### Human approval -/

def approvalAudit (action : AuditAction) (approval : HumanApprovalRequest)
    (operation : FinancialOperation) (payload : Dict) : AuditEvent where
  action
  actorId := approval.approvedById
  actorType := "PRINCIPAL"
  resourceId := operation.operationId
  resourceType := "FINANCIAL_OPERATION"
  payload
  previousState := none
  newState := some [("status", .str operation.status.value)]

/-- What a granted approval writes to the operation. -/
def grantApproval (approvedById : String) (op : FinancialOperation) : FinancialOperation :=
  { op.moveTo .reserved with approvedById := some approvedById }

/-- `POST /operations/{operation_id}/approve`. -/
def humanApproveOperation (env : Platform) (operationId : String)
    (approval : HumanApprovalRequest) (gateway : GatewayAnswers) (s : Store) :
    Except Refusal (Committed FinancialOperation) := do
  let operation ← orRefuse (← s.operationByOperationId operationId)
    (.http 404 "Operation not found")
  ensure (operation.status = .requiresApproval)
    (.http 400 s!"Operation is in status {operation.status.value}, cannot approve")
  let mandate ← orRefuse (s.mandates.find? operation.mandateId) (.http 404 "Mandate not found")
  if !approval.approved then
    let message := (truthyId approval.reason).getD "Human review rejected operation"
    let rejected := operation.moveToWith .policyRejected (some message)
    return ⟨rejected,
      (s.updateOperation operation.id (.moveToWith .policyRejected (some message))).audit
        (approvalAudit .humanApprovalRejected approval rejected [("reason", .str message)]),
      [.posted operation .policyRejected 0 0]⟩
  else
    match reserveBudget s mandate.id operation.amount with
    | none =>
      let message := "Budget limit exhausted before approval could reserve funds"
      return ⟨operation.moveToWith .policyRejected (some message),
        s.updateOperation operation.id (.moveToWith .policyRejected (some message)),
        [.posted operation .policyRejected 0 0]⟩
    | some s =>
      let granted := grantApproval approval.approvedById operation
      let s := (s.updateOperation operation.id (grantApproval approval.approvedById)).audit
        (approvalAudit .humanApprovalGranted approval granted
          [("approved_by", .str approval.approvedById), ("amount", .int operation.amount)])
      let done := executeGatewayOperation env gateway mandate granted operation.payload s
      return { done with
        events := .posted operation .reserved operation.amount 0 :: done.events }

/-! ### Payment verification -/

structure PaymentVerified where
  verified : Bool
  operationId : String
  status : String
  paymentId : String

def commitAudit (operation : FinancialOperation) : AuditEvent where
  action := .budgetCommitted
  actorId := "SYSTEM"
  actorType := "SYSTEM"
  resourceId := operation.mandateId
  resourceType := "MANDATE"
  payload := [("committed_amount", .int operation.amount),
    ("operation_id", .str operation.operationId)]
  previousState := none
  newState := none

def verifiedAudit (operation : FinancialOperation) (payload : PaymentVerifyRequest) :
    AuditEvent where
  action := .transactionRecorded
  actorId := operation.agentId
  actorType := "AGENT"
  resourceId := operation.operationId
  resourceType := "FINANCIAL_OPERATION"
  payload := [("order_id", .str payload.razorpayOrderId),
    ("payment_id", .str payload.razorpayPaymentId), ("verified", .bool true)]
  previousState := none
  newState := some [("status", .str operation.status.value)]

/-- The payment id and CAPTURED go to the operation's transaction, if there is one. -/
def recordPayment (operation : FinancialOperation) (paymentId : String) (tx : Option Transaction)
    (s : Store) : Store :=
  match tx with
  | none => s
  | some _ => s.updateTransactions (fun tx => tx.operationId = operation.id)
    fun tx => { tx with gatewayPaymentId := some paymentId, status := .captured }

/-- `POST /operations/{operation_id}/verify-payment`.  Neither the operation's status nor the
order the signature speaks of is looked at. -/
def verifyPayment (env : Platform) (settings : Settings) (operationId : String)
    (payload : PaymentVerifyRequest) (s : Store) : Except Refusal (Committed PaymentVerified) := do
  let operation ← orRefuse (← s.operationByOperationId operationId)
    (.http 404 "Financial operation not found")
  let isValid ← verifyPaymentSignature env settings payload.razorpayOrderId
    payload.razorpayPaymentId payload.razorpaySignature
  ensure isValid (.http 400 "Invalid Razorpay signature")
  let s := (s.updateMandate operation.mandateId (Mandate.commitReserved operation.amount)).audit
    (commitAudit operation)
  let tx ← scalarOneOrFail (s.transactionsOf operation.id)
  let s := recordPayment operation payload.razorpayPaymentId tx s
  let s := (s.updateOperation operation.id (.moveTo .succeeded)).audit
    (verifiedAudit (operation.moveTo .succeeded) payload)
  return ⟨⟨true, operationId, "SUCCEEDED", payload.razorpayPaymentId⟩, s,
    [.posted operation .succeeded (-operation.amount) operation.amount]⟩

end MandatePlane.OperationRoutes

import MandatePlane.ControlPlane
import MandatePlane.ReadCommitted

/-!
# Requests and approvals, statement by statement

The two endpoints that reserve a budget as programs of a database session.  A request
looks its key up, locks the mandate, inserts its row under the unique indexes, reserves
and dispatches; an approval reads operation and mandate without a lock.  Both commit
for the first time when the gateway has answered.

By itself, each program is the endpoint.
-/

namespace MandatePlane.OperationSessions

open DomainModel KeyedTable LabelledRun HostEnvironment PolicyEngine RazorpayClient CallerAuth
open OperationRoutes ControlPlane ReadCommitted

/-- What a statement can lock: a row, or the entry of a unique index. -/
inductive Row where
  | mandate (id : String)
  | operation (id : String)
  | operationId (operationId : String)
  | idempotencyKey (key : String)
  | transactions (operationId : String)
  | webhookEvent (eventId : String)
  deriving DecidableEq

/-- A mutating call to the gateway. -/
def isCall : Event → Bool
  | .gatewayCall _ _ => true
  | _ => false

/-- A reservation of an amount. -/
def isReservation : Event → Bool
  | .posted _ .reserved _ _ => true
  | _ => false

section Counts

variable {ι : Type*}

def reservations (trace : List (ι × Event)) : ℕ := trace.countP fun l => isReservation l.2

def gatewayCalls (trace : List (ι × Event)) : ℕ := trace.countP fun l => isCall l.2

theorem counts_append (trace : List (ι × Event)) (i : ι) (events : List Event) :
    reservations (trace ++ events.map fun e => (i, e)) =
        reservations trace + events.countP isReservation ∧
      gatewayCalls (trace ++ events.map fun e => (i, e)) =
        gatewayCalls trace + events.countP isCall := by
  unfold reservations gatewayCalls
  rw [List.countP_append, List.countP_append, List.countP_map, List.countP_map]
  exact ⟨rfl, rfl⟩

end Counts

/-! ### The gateway execution -/

/-- What follows the gateway calls in the log. -/
def settlementEvents (operation : FinancialOperation) : Except String Dispatched → List Event
  | .ok .notDispatched => []
  | .ok (.executing _) => [.posted operation .executing 0 0]
  | .ok (.settled _) => [.posted operation .succeeded (-operation.amount) operation.amount]
  | .error _ => [.posted operation .failed (-operation.amount) 0]

theorem executeGatewayOperation_split (env : Platform) (gateway : GatewayAnswers)
    (mandate : Mandate) (operation : FinancialOperation) (payload : JsonValue.Dict) (s : Store) :
    (executeGatewayOperation env gateway mandate operation payload s).events =
      (attemptGateway env gateway operation payload).1.map (Event.gatewayCall operation) ++
        settlementEvents operation (attemptGateway env gateway operation payload).2 := by
  unfold executeGatewayOperation
  match hattempt : (attemptGateway env gateway operation payload).2 with
  | .ok .notDispatched => simp only [hattempt, settlementEvents, List.append_nil]
  | .ok (.executing _) => simp only [hattempt, settlementEvents]
  | .ok (.settled _) => simp only [hattempt, settlementEvents]
  | .error _ => simp only [hattempt, settlementEvents]

/-- What the gateway execution returns does not depend on the store. -/
def executed (env : Platform) (gateway : GatewayAnswers) (operation : FinancialOperation)
    (payload : JsonValue.Dict) : FinancialOperation :=
  match (attemptGateway env gateway operation payload).2 with
  | .ok .notDispatched => operation
  | .ok (.executing _) => operation.moveTo .executing
  | .ok (.settled _) => operation.moveTo .succeeded
  | .error text => operation.moveToWith .failed (some text)

theorem executeGatewayOperation_value (env : Platform) (gateway : GatewayAnswers)
    (mandate : Mandate) (operation : FinancialOperation) (payload : JsonValue.Dict) (s : Store) :
    (executeGatewayOperation env gateway mandate operation payload s).value =
      executed env gateway operation payload := by
  unfold executeGatewayOperation executed
  match hattempt : (attemptGateway env gateway operation payload).2 with
  | .ok .notDispatched => simp only [hattempt]
  | .ok (.executing _) => simp only [hattempt]
  | .ok (.settled _) => simp only [hattempt]
  | .error _ => simp only [hattempt]

/-- A gateway execution calls at most once. -/
theorem attemptGateway_calls (env : Platform) (gateway : GatewayAnswers)
    (operation : FinancialOperation) (payload : JsonValue.Dict) :
    (attemptGateway env gateway operation payload).1.length ≤ 1 := by
  unfold attemptGateway
  split
  · unfold attemptOrder
    split <;> simp
  · unfold attemptPaymentLink
    split <;> simp
  · unfold attemptRefund
    dsimp only
    split
    · split <;> simp
    · simp
  · simp
  · simp

theorem executed_id (env : Platform) (gateway : GatewayAnswers) (operation : FinancialOperation)
    (payload : JsonValue.Dict) :
    (executed env gateway operation payload).id = operation.id := by
  unfold executed
  split <;> rfl

/-- The settlement neither reserves nor calls. -/
theorem settlementEvents_count (operation : FinancialOperation)
    (attempt : Except String Dispatched) :
    (settlementEvents operation attempt).countP isReservation = 0 ∧
      (settlementEvents operation attempt).countP isCall = 0 := by
  rcases attempt with _ | (_ | _ | _) <;> exact ⟨rfl, rfl⟩

theorem calls_count (operation : FinancialOperation) (calls : List GatewayCall) :
    (calls.map (Event.gatewayCall operation)).countP isReservation = 0 ∧
      (calls.map (Event.gatewayCall operation)).countP isCall = calls.length := by
  induction calls with
  | nil => exact ⟨rfl, rfl⟩
  | cons call calls ih =>
    rw [List.map_cons, List.countP_cons, List.countP_cons, ih.1, ih.2]
    exact ⟨rfl, rfl⟩

section Execution

variable {π : Type} (env : Platform) (gateway : GatewayAnswers) (mandate : Mandate)
  (operation : FinancialOperation) (payload : JsonValue.Dict)

/-- The calls to the gateway. -/
def callGateway (next : π) : Stmt Store Row Event π :=
  .emit ((attemptGateway env gateway operation payload).1.map (Event.gatewayCall operation)) next

/-- The writes after the gateway has answered, on rows the session has locked before. -/
def settleGateway (next : π) : Stmt Store Row Event π :=
  .exec (fun _ => [.mandate mandate.id, .operation operation.id]) fun _ =>
    ⟨fun s => (executeGatewayOperation env gateway mandate operation payload s).store,
      settlementEvents operation (attemptGateway env gateway operation payload).2, next⟩

end Execution

/-- The condition of `reserve_budget`. -/
def permits (mandates : Table Mandate) (mandateId : String) (amount : ℤ) : Bool :=
  (mandates.find? mandateId).any fun m =>
    m.currentAggregateSpend + m.reservedSpend + amount ≤ m.aggregateSpendLimit

theorem reserveBudget_permits (s : Store) (mandateId : String) (amount : ℤ) :
    reserveBudget s mandateId amount = if permits s.mandates mandateId amount then
      some (s.updateMandate mandateId (Mandate.reserve amount)) else none := by
  unfold reserveBudget permits
  cases s.mandates.find? mandateId with
  | none => rfl
  | some m => simp

theorem reserved_of_reserveBudget {s s' : Store} {mandateId : String} {amount : ℤ}
    (h : reserveBudget s mandateId amount = some s') :
    s' = s.updateMandate mandateId (Mandate.reserve amount) := by
  rw [reserveBudget_permits] at h
  split at h
  · exact (Option.some.inj h).symm
  · cases h

/-! ### A request -/

structure RequestCall where
  payload : OperationCreate
  headers : CallerHeaders
  inputs : RequestInputs

inductive RequestPoint where
  | authenticate
  | lookUp
  | lockMandate
  | loadAgent (mandate : Mandate)
  | insert (mandate : Mandate) (agent : Agent)
  | decide (mandate : Mandate) (agent : Agent)
  | lost (operation : FinancialOperation) (result : PolicyEvaluationResult)
  | reserved (mandate : Mandate) (operation : FinancialOperation) (result : PolicyEvaluationResult)
  | dispatch (mandate : Mandate) (operation : FinancialOperation)
  | settle (mandate : Mandate) (operation : FinancialOperation)
  | finish (operation : FinancialOperation)
  | returned (operation : FinancialOperation)
  | raised (refusal : Refusal)
  | refused (refusal : Refusal)

/-- `INSERT INTO financial_operations`. -/
def insertRow (operation : FinancialOperation) (s : Store) : Store :=
  (s.insertOperation operation).getD s

/-- The first statement after the policy has been evaluated: the UPDATE that parks or rejects the
row, or `reserve_budget`. -/
def actStatement (call : RequestCall) (mandate : Mandate) (operation : FinancialOperation)
    (result : PolicyEvaluationResult) : Stmt Store Row Event RequestPoint :=
  let evaluated := withDetails result operation
  match result.decision with
  | .deny =>
    let message := join "; " result.rejectionReasons
    .exec (fun _ => [.operation operation.id]) fun _ =>
      ⟨fun s => (recordEvaluation call.payload operation result s).updateOperation operation.id
        (.moveToWith .policyRejected (some message))
        (FinancialOperation.moveToWith_text_key .policyRejected message),
      [.opened evaluated, .posted evaluated .policyRejected 0 0],
      .finish (evaluated.moveToWith .policyRejected (some message))⟩
  | .requireHumanReview =>
    let message := join "; " result.reviewReasons
    .exec (fun _ => [.operation operation.id]) fun _ =>
      ⟨fun s => (recordEvaluation call.payload operation result s).updateOperation operation.id
        (.moveToWith .requiresApproval (some message))
        (FinancialOperation.moveToWith_text_key .requiresApproval message),
      [.opened evaluated, .posted evaluated .requiresApproval 0 0],
      .finish (evaluated.moveToWith .requiresApproval (some message))⟩
  | .allow =>
    .exec (fun _ => [.mandate mandate.id]) fun s =>
      match reserveBudget s mandate.id call.payload.amount with
      | none => ⟨id, [.opened evaluated], .lost evaluated result⟩
      | some _ => ⟨fun s => s.updateMandate mandate.id (Mandate.reserve call.payload.amount),
        [.opened evaluated, .posted evaluated .reserved evaluated.amount 0],
        .reserved mandate evaluated result⟩

/-- The statement at each point of a request. -/
def requestCode (env : Platform) (settings : Settings) (call : RequestCall) :
    RequestPoint → Stmt Store Row Event RequestPoint
  | .authenticate => .look fun s =>
    match authenticateRequest env settings call.payload call.headers s.agents with
    | .error refusal => .raised refusal
    | .ok _ => .lookUp
  | .lookUp => .look fun s =>
    match s.operationByIdempotencyKey call.payload.idempotencyKey with
    | .error refusal => .raised refusal
    | .ok (some existingOp) => .returned existingOp
    | .ok none => .lockMandate
  -- `SELECT ... FOR UPDATE`
  | .lockMandate => .exec (fun s => ((s.mandates.find? call.payload.mandateId).map
      fun m => Row.mandate m.id).toList) fun s =>
    match s.mandates.find? call.payload.mandateId with
    | none => ⟨id, [], .raised (.http 404 "Mandate not found")⟩
    | some mandate => ⟨id, [], .loadAgent mandate⟩
  | .loadAgent mandate => .look fun s =>
    match s.agents.find? call.payload.agentId with
    | none => .raised (.http 404 "Agent not found")
    | some agent => .insert mandate agent
  -- waits for an uncommitted row with one of its keys
  | .insert mandate agent =>
    let operation := newOperation env call.payload call.inputs
    .exec (fun _ => [.idempotencyKey operation.idempotencyKey, .operationId operation.operationId,
        .operation operation.id]) fun s =>
      match s.insertOperation operation with
      | none => ⟨id, [], .raised .serverError⟩
      | some _ => ⟨insertRow operation, [], .decide mandate agent⟩
  -- the policy is evaluated on the rows in memory
  | .decide mandate agent =>
    let operation := newOperation env call.payload call.inputs
    match evaluate env (requestEvaluation call.inputs) agent mandate operation with
    | .error refusal => .rollback (.refused refusal)
    | .ok result => actStatement call mandate operation result
  | .lost operation result =>
    .exec (fun _ => [.operation operation.id]) fun _ =>
      ⟨fun s => (recordEvaluation call.payload (newOperation env call.payload call.inputs) result
          s).updateOperation operation.id (lostReservation result) (lostReservation_key result),
        [.posted operation .policyRejected 0 0], .finish (lostReservation result operation)⟩
  | .reserved mandate operation result =>
    .exec (fun _ => [.operation operation.id]) fun _ =>
      ⟨fun s => ((recordEvaluation call.payload (newOperation env call.payload call.inputs) result
          s).updateOperation operation.id (.moveTo .reserved)
            (FinancialOperation.moveTo_key .reserved)).audit
            (reserveAudit mandate operation), [], .dispatch mandate (operation.moveTo .reserved)⟩
  | .dispatch mandate operation =>
    callGateway env call.inputs.gateway operation call.payload.payload (.settle mandate operation)
  | .settle mandate operation =>
    settleGateway env call.inputs.gateway mandate operation call.payload.payload
      (.finish (executed env call.inputs.gateway operation call.payload.payload))
  | .finish operation => .commit (.returned operation)
  | .raised refusal => .rollback (.refused refusal)
  | .returned _ => .stop
  | .refused _ => .stop

/-- **What the statement of a point can be**: a statement to run, the commit at the end, a
rollback by the policy engine or before the insert, or nothing. -/
inductive RequestControl : RequestPoint → Stmt Store Row Event RequestPoint → Prop
  | exec {p : RequestPoint} (rows : Store → List Row)
      (run : Store → Effect Store Event RequestPoint) : RequestControl p (.exec rows run)
  | commit (operation : FinancialOperation) :
      RequestControl (.finish operation) (.commit (.returned operation))
  | rollback {p : RequestPoint} (refusal : Refusal)
      (hp : (∃ mandate agent, p = .decide mandate agent) ∨ ∃ refusal, p = .raised refusal) :
      RequestControl p (.rollback (.refused refusal))
  | stop {p : RequestPoint} : RequestControl p .stop

theorem requestCode_control (env : Platform) (settings : Settings) (call : RequestCall)
    (p : RequestPoint) : RequestControl p (requestCode env settings call p) := by
  cases p with
  | decide mandate agent =>
    simp only [requestCode]
    split
    · exact .rollback _ (.inl ⟨mandate, agent, rfl⟩)
    · unfold actStatement
      dsimp only
      split <;> exact .exec _ _
  | finish operation => exact .commit operation
  | raised refusal => exact .rollback refusal (.inr ⟨refusal, rfl⟩)
  | returned _ => exact .stop
  | refused _ => exact .stop
  | authenticate => exact .exec _ _
  | lookUp => exact .exec _ _
  | lockMandate => exact .exec _ _
  | loadAgent _ => exact .exec _ _
  | insert _ _ => exact .exec _ _
  | lost _ _ => exact .exec _ _
  | reserved _ _ _ => exact .exec _ _
  | dispatch _ _ => exact .exec _ _
  | settle _ _ => exact .exec _ _

/-- A request commits at its end only. -/
theorem requestCode_commit {env : Platform} {settings : Settings} {call : RequestCall}
    {p next : RequestPoint} (hcode : requestCode env settings call p = .commit next) :
    ∃ operation, p = .finish operation ∧ next = .returned operation := by
  have h := requestCode_control env settings call p
  rw [hcode] at h
  cases h with
  | commit operation => exact ⟨operation, rfl, rfl⟩

/-- A request rolls back to be refused, by the policy engine or before its insert. -/
theorem requestCode_rollback {env : Platform} {settings : Settings} {call : RequestCall}
    {p next : RequestPoint} (hcode : requestCode env settings call p = .rollback next) :
    (∃ refusal, next = .refused refusal) ∧
      ((∃ mandate agent, p = .decide mandate agent) ∨ ∃ refusal, p = .raised refusal) := by
  have h := requestCode_control env settings call p
  rw [hcode] at h
  cases h with
  | rollback refusal hp => exact ⟨⟨refusal, rfl⟩, hp⟩

/-- No statement of a request skips locked rows. -/
theorem requestCode_grab {env : Platform} {settings : Settings} {call : RequestCall}
    {p : RequestPoint} {rows : Store → List Row}
    {run' : List Row → Store → Effect Store Event RequestPoint} :
    requestCode env settings call p ≠ .grab rows run' := by
  intro hcode
  have h := requestCode_control env settings call p
  rw [hcode] at h
  cases h

/-- How a request ends. -/
def answerPoint : Except Refusal (Committed FinancialOperation) → RequestPoint
  | .ok c => .returned c.value
  | .error refusal => .refused refusal

section SoloRequest

variable {env : Platform} {settings : Settings} {call : RequestCall} {s : Store}

/-- The gateway execution, from the first call to the commit. -/
theorem ends_dispatch {mandate : Mandate} {operation : FinancialOperation} {w : Store → Store} :
    Ends (requestCode env settings call) s (.dispatch mandate operation) w
      (executeGatewayOperation env call.inputs.gateway mandate operation call.payload.payload
        (w s)).events
      (executeGatewayOperation env call.inputs.gateway mandate operation call.payload.payload
        (w s)).store
      (.returned (executeGatewayOperation env call.inputs.gateway mandate operation
        call.payload.payload (w s)).value) := by
  rw [executeGatewayOperation_split, executeGatewayOperation_value]
  refine .ran rfl rfl ?_ rfl
  exact .ran rfl rfl (.commit rfl (.stop rfl)) (List.append_nil _).symm

/-- Steps 4 to 7, from the decision to the commit. -/
theorem ends_actOnDecision {mandate : Mandate} {agent : Agent} {w : Store → Store}
    {result : PolicyEvaluationResult}
    (hresult : evaluate env (requestEvaluation call.inputs) agent mandate
      (newOperation env call.payload call.inputs) = .ok result)
    {c : Committed FinancialOperation}
    (hc : actOnDecision env call.payload call.inputs mandate
      (withDetails result (newOperation env call.payload call.inputs)) result
      (recordEvaluation call.payload (newOperation env call.payload call.inputs) result (w s)) = c) :
    Ends (requestCode env settings call) s (.decide mandate agent) w c.events c.store
      (.returned c.value) := by
  subst hc
  have hcode : requestCode env settings call (.decide mandate agent) =
      actStatement call mandate (newOperation env call.payload call.inputs) result := by
    simp only [requestCode, hresult]
  unfold actStatement at hcode
  cases hdecision : result.decision with
  | deny =>
    simp only [actOnDecision, hdecision] at hcode ⊢
    exact .ran hcode rfl (.commit rfl (.stop rfl)) rfl
  | requireHumanReview =>
    simp only [actOnDecision, hdecision] at hcode ⊢
    exact .ran hcode rfl (.commit rfl (.stop rfl)) rfl
  | allow =>
    simp only [actOnDecision, hdecision] at hcode ⊢
    -- the evaluation recorded before does not move the mandate
    have hsame := reserveBudget_permits (recordEvaluation call.payload
      (newOperation env call.payload call.inputs) result (w s)) mandate.id call.payload.amount
    have hseen := reserveBudget_permits (w s) mandate.id call.payload.amount
    cases hpermits : permits (w s).mandates mandate.id call.payload.amount with
    | false =>
      have hpermits' : permits (recordEvaluation call.payload
          (newOperation env call.payload call.inputs) result (w s)).mandates mandate.id
          call.payload.amount = false := hpermits
      rw [hpermits', if_neg Bool.false_ne_true] at hsame
      rw [hpermits, if_neg Bool.false_ne_true] at hseen
      rw [hsame]
      refine .ran hcode (by rw [hseen]) ?_ rfl
      exact .ran rfl rfl (.commit rfl (.stop rfl)) rfl
    | true =>
      have hpermits' : permits (recordEvaluation call.payload
          (newOperation env call.payload call.inputs) result (w s)).mandates mandate.id
          call.payload.amount = true := hpermits
      rw [hpermits', if_pos rfl] at hsame
      rw [hpermits, if_pos rfl] at hseen
      rw [hsame]
      refine .ran hcode (by rw [hseen]) ?_ rfl
      exact .ran rfl rfl ends_dispatch rfl

/-- From the policy evaluation of the inserted row to the end. -/
theorem ends_decide {mandate : Mandate} {agent : Agent} {w : Store → Store} :
    Ends (requestCode env settings call) s (.decide mandate agent) w
      (outcome s (decideOperation env call.payload call.inputs agent mandate
        (newOperation env call.payload call.inputs) (w s))).2
      (outcome s (decideOperation env call.payload call.inputs agent mandate
        (newOperation env call.payload call.inputs) (w s))).1
      (answerPoint (decideOperation env call.payload call.inputs agent mandate
        (newOperation env call.payload call.inputs) (w s))) := by
  cases hresult : evaluate env (requestEvaluation call.inputs) agent mandate
      (newOperation env call.payload call.inputs) with
  | error refusal =>
    have hrefused : decideOperation env call.payload call.inputs agent mandate
        (newOperation env call.payload call.inputs) (w s) = .error refusal := by
      rw [decideOperation, hresult]
      rfl
    have hcode : requestCode env settings call (.decide mandate agent) =
        .rollback (.refused refusal) := by
      simp only [requestCode, hresult]
    rw [hrefused]
    exact .rollback hcode (.stop rfl)
  | ok result =>
    have hdecided : decideOperation env call.payload call.inputs agent mandate
        (newOperation env call.payload call.inputs) (w s) =
        .ok (actOnDecision env call.payload call.inputs mandate
          (withDetails result (newOperation env call.payload call.inputs)) result
          (recordEvaluation call.payload (newOperation env call.payload call.inputs) result
            (w s))) := by
      rw [decideOperation, hresult]
      rfl
    rw [hdecided]
    exact ends_actOnDecision hresult rfl

/-- **By itself a request is `POST /operations`.** -/
theorem ends_request :
    Ends (requestCode env settings call) s .authenticate id
      (outcome s (requestFinancialOperation env settings call.payload call.headers call.inputs s)).2
      (outcome s (requestFinancialOperation env settings call.payload call.headers call.inputs s)).1
      (answerPoint (requestFinancialOperation env settings call.payload call.headers call.inputs
        s)) := by
  -- each branch of the endpoint is a path of statements
  unfold requestFinancialOperation
  simp only [bind, Except.bind]
  cases hauth : authenticateRequest env settings call.payload call.headers s.agents with
  | error refusal => exact .ran rfl (by simp only [id, hauth]; rfl) (.rollback rfl (.stop rfl)) rfl
  | ok _ =>
  refine .ran rfl (by simp only [id, hauth]; rfl) ?_ (List.nil_append _).symm
  cases hkey : s.operationByIdempotencyKey call.payload.idempotencyKey with
  | error refusal =>
    exact .ran rfl (by simp only [id, Function.comp, hkey]; rfl) (.rollback rfl (.stop rfl)) rfl
  | ok existing =>
  cases existing with
  | some existingOp => exact .ran rfl (by simp only [id, Function.comp, hkey]; rfl) (.stop rfl) rfl
  | none =>
  refine .ran rfl (by simp only [id, Function.comp, hkey]; rfl) ?_ (List.nil_append _).symm
  cases hmandate : s.mandates.find? call.payload.mandateId with
  | none =>
    exact .ran rfl (by simp only [id, Function.comp, hmandate]; rfl) (.rollback rfl (.stop rfl)) rfl
  | some mandate =>
  refine .ran rfl (by simp only [id, Function.comp, hmandate]; rfl) ?_ (List.nil_append _).symm
  cases hagent : s.agents.find? call.payload.agentId with
  | none =>
    exact .ran rfl (by simp only [id, Function.comp, hagent]; rfl) (.rollback rfl (.stop rfl)) rfl
  | some agent =>
  refine .ran rfl (by simp only [id, Function.comp, hagent]; rfl) ?_ (List.nil_append _).symm
  cases hinsert : s.insertOperation (newOperation env call.payload call.inputs) with
  | none =>
    exact .ran rfl (by simp only [id, Function.comp, hinsert]; rfl) (.rollback rfl (.stop rfl)) rfl
  | some inserted =>
  refine .ran rfl (by simp only [id, Function.comp, hinsert]; rfl) ?_ (List.nil_append _).symm
  have hrow : insertRow (newOperation env call.payload call.inputs) s = inserted := by
    rw [insertRow, hinsert]
    rfl
  rw [← hrow]
  exact ends_decide

end SoloRequest

/-! ### An approval -/

structure ApprovalCall where
  operationId : String
  approval : HumanApprovalRequest
  gateway : GatewayAnswers

inductive ApprovalPoint where
  | read
  | loadMandate (operation : FinancialOperation)
  | reject (operation : FinancialOperation)
  | reserve (mandate : Mandate) (operation : FinancialOperation)
  | exhausted (operation : FinancialOperation)
  | grant (mandate : Mandate) (operation : FinancialOperation)
  | dispatch (mandate : Mandate) (operation : FinancialOperation)
  | settle (mandate : Mandate) (operation : FinancialOperation)
  | finish (operation : FinancialOperation)
  | returned (operation : FinancialOperation)
  | raised (refusal : Refusal)
  | refused (refusal : Refusal)

def rejectionMessage (approval : HumanApprovalRequest) : String :=
  (truthyId approval.reason).getD "Human review rejected operation"

def exhaustedMessage : String := "Budget limit exhausted before approval could reserve funds"

/-- The writes of a rejection. -/
def rejectRow (call : ApprovalCall) (operation : FinancialOperation) (s : Store) : Store :=
  let message := rejectionMessage call.approval
  (s.updateOperation operation.id (.moveToWith .policyRejected (some message))).audit
    (approvalAudit .humanApprovalRejected call.approval
      (operation.moveToWith .policyRejected (some message)) [("reason", .str message)])

/-- The writes of a grant. -/
def grantRow (call : ApprovalCall) (operation : FinancialOperation) (s : Store) : Store :=
  (s.updateOperation operation.id (grantApproval call.approval.approvedById)).audit
    (approvalAudit .humanApprovalGranted call.approval
      (grantApproval call.approval.approvedById operation)
      [("approved_by", .str call.approval.approvedById), ("amount", .int operation.amount)])

/-- The statement at each point of an approval. -/
def approvalCode (env : Platform) (call : ApprovalCall) :
    ApprovalPoint → Stmt Store Row Event ApprovalPoint
  | .read => .look fun s =>
    match s.operationByOperationId call.operationId with
    | .error refusal => .raised refusal
    | .ok none => .raised (.http 404 "Operation not found")
    | .ok (some operation) =>
      if operation.status = .requiresApproval then .loadMandate operation
      else .raised (.http 400 s!"Operation is in status {operation.status.value}, cannot approve")
  | .loadMandate operation => .look fun s =>
    match s.mandates.find? operation.mandateId with
    | none => .raised (.http 404 "Mandate not found")
    | some mandate =>
      if call.approval.approved then .reserve mandate operation else .reject operation
  | .reject operation =>
    .exec (fun _ => [.operation operation.id]) fun _ =>
      ⟨rejectRow call operation, [.posted operation .policyRejected 0 0],
        .finish (operation.moveToWith .policyRejected (some (rejectionMessage call.approval)))⟩
  -- `reserve_budget`
  | .reserve mandate operation =>
    .exec (fun _ => [.mandate mandate.id]) fun s =>
      match reserveBudget s mandate.id operation.amount with
      | none => ⟨id, [], .exhausted operation⟩
      | some _ => ⟨fun s => s.updateMandate mandate.id (Mandate.reserve operation.amount),
        [.posted operation .reserved operation.amount 0], .grant mandate operation⟩
  | .exhausted operation =>
    .exec (fun _ => [.operation operation.id]) fun _ =>
      ⟨fun s => s.updateOperation operation.id (.moveToWith .policyRejected (some exhaustedMessage)),
        [.posted operation .policyRejected 0 0],
        .finish (operation.moveToWith .policyRejected (some exhaustedMessage))⟩
  | .grant mandate operation =>
    .exec (fun _ => [.operation operation.id]) fun _ =>
      ⟨grantRow call operation, [],
        .dispatch mandate (grantApproval call.approval.approvedById operation)⟩
  | .dispatch mandate operation =>
    callGateway env call.gateway operation operation.payload (.settle mandate operation)
  | .settle mandate operation =>
    settleGateway env call.gateway mandate operation operation.payload
      (.finish (executed env call.gateway operation operation.payload))
  | .finish operation => .commit (.returned operation)
  | .raised refusal => .rollback (.refused refusal)
  | .returned _ => .stop
  | .refused _ => .stop

/-- **What the statement of a point can be**: a statement to run, the commit at the end, the
rollback of a refusal, or nothing. -/
inductive ApprovalControl : ApprovalPoint → Stmt Store Row Event ApprovalPoint → Prop
  | exec {p : ApprovalPoint} (rows : Store → List Row)
      (run : Store → Effect Store Event ApprovalPoint) : ApprovalControl p (.exec rows run)
  | commit (operation : FinancialOperation) :
      ApprovalControl (.finish operation) (.commit (.returned operation))
  | rollback (refusal : Refusal) :
      ApprovalControl (.raised refusal) (.rollback (.refused refusal))
  | stop {p : ApprovalPoint} : ApprovalControl p .stop

theorem approvalCode_control (env : Platform) (call : ApprovalCall) (p : ApprovalPoint) :
    ApprovalControl p (approvalCode env call p) := by
  cases p with
  | finish operation => exact .commit operation
  | raised refusal => exact .rollback refusal
  | returned _ => exact .stop
  | refused _ => exact .stop
  | read => exact .exec _ _
  | loadMandate _ => exact .exec _ _
  | reject _ => exact .exec _ _
  | reserve _ _ => exact .exec _ _
  | exhausted _ => exact .exec _ _
  | grant _ _ => exact .exec _ _
  | dispatch _ _ => exact .exec _ _
  | settle _ _ => exact .exec _ _

/-- An approval commits at its end only. -/
theorem approvalCode_commit {env : Platform} {call : ApprovalCall} {p next : ApprovalPoint}
    (hcode : approvalCode env call p = .commit next) :
    ∃ operation, p = .finish operation ∧ next = .returned operation := by
  have h := approvalCode_control env call p
  rw [hcode] at h
  cases h with
  | commit operation => exact ⟨operation, rfl, rfl⟩

/-- Only a refusal rolls back. -/
theorem approvalCode_rollback {env : Platform} {call : ApprovalCall} {p next : ApprovalPoint}
    (hcode : approvalCode env call p = .rollback next) :
    ∃ refusal, p = .raised refusal ∧ next = .refused refusal := by
  have h := approvalCode_control env call p
  rw [hcode] at h
  cases h with
  | rollback refusal => exact ⟨refusal, rfl, rfl⟩

theorem approvalCode_grab {env : Platform} {call : ApprovalCall} {p : ApprovalPoint}
    {rows : Store → List Row} {run' : List Row → Store → Effect Store Event ApprovalPoint} :
    approvalCode env call p ≠ .grab rows run' := by
  intro hcode
  have h := approvalCode_control env call p
  rw [hcode] at h
  cases h

def approvalAnswer : Except Refusal (Committed FinancialOperation) → ApprovalPoint
  | .ok c => .returned c.value
  | .error refusal => .refused refusal

section SoloApproval

variable {env : Platform} {call : ApprovalCall} {s : Store}

/-- The gateway execution, from the first call to the commit. -/
theorem ends_dispatch_approval {mandate : Mandate} {operation : FinancialOperation}
    {w : Store → Store} :
    Ends (approvalCode env call) s (.dispatch mandate operation) w
      (executeGatewayOperation env call.gateway mandate operation operation.payload (w s)).events
      (executeGatewayOperation env call.gateway mandate operation operation.payload (w s)).store
      (.returned (executeGatewayOperation env call.gateway mandate operation operation.payload
        (w s)).value) := by
  rw [executeGatewayOperation_split, executeGatewayOperation_value]
  refine .ran rfl rfl ?_ rfl
  exact .ran rfl rfl (.commit rfl (.stop rfl)) (List.append_nil _).symm

/-- **By itself an approval is `POST /operations/{operation_id}/approve`.** -/
theorem ends_approval :
    Ends (approvalCode env call) s .read id
      (outcome s (humanApproveOperation env call.operationId call.approval call.gateway s)).2
      (outcome s (humanApproveOperation env call.operationId call.approval call.gateway s)).1
      (approvalAnswer (humanApproveOperation env call.operationId call.approval call.gateway
        s)) := by
  unfold humanApproveOperation
  simp only [bind, Except.bind]
  cases hfound : s.operationByOperationId call.operationId with
  | error refusal => exact .ran rfl (by simp only [id, hfound]; rfl) (.rollback rfl (.stop rfl)) rfl
  | ok found =>
  cases found with
  | none => exact .ran rfl (by simp only [id, hfound]; rfl) (.rollback rfl (.stop rfl)) rfl
  | some operation =>
  by_cases hstatus : operation.status = .requiresApproval
  swap
  · simp only [orRefuse, hstatus, decide_false, ensure]
    exact .ran rfl (by simp only [id, hfound, if_neg hstatus]; rfl) (.rollback rfl (.stop rfl)) rfl
  simp only [orRefuse, hstatus, decide_true, ensure, if_true]
  refine .ran rfl (by simp only [id, hfound, if_pos hstatus]; rfl) ?_ (List.nil_append _).symm
  cases hmandate : s.mandates.find? operation.mandateId with
  | none =>
    exact .ran rfl (by simp only [id, Function.comp, hmandate]; rfl) (.rollback rfl (.stop rfl)) rfl
  | some mandate =>
  cases happroved : call.approval.approved with
  | false =>
    refine .ran rfl (by simp only [id, Function.comp, hmandate, happroved]; rfl) ?_
      (List.nil_append _).symm
    exact .ran rfl rfl (.commit rfl (.stop rfl)) rfl
  | true =>
    refine .ran rfl (by simp only [id, Function.comp, hmandate, happroved]; rfl) ?_
      (List.nil_append _).symm
    cases hreserve : reserveBudget s mandate.id operation.amount with
    | none =>
      simp only [Bool.not_true, Bool.false_eq_true, if_false, hreserve]
      refine .ran rfl (by simp only [id, Function.comp, hreserve]; rfl) ?_ (List.nil_append _).symm
      exact .ran rfl rfl (.commit rfl (.stop rfl)) rfl
    | some reserved =>
      simp only [Bool.not_true, Bool.false_eq_true, if_false, hreserve]
      refine .ran rfl (by simp only [id, Function.comp, hreserve]; rfl) ?_ rfl
      refine .ran rfl rfl ?_ (List.nil_append _).symm
      rw [reserved_of_reserveBudget hreserve]
      exact ends_dispatch_approval

end SoloApproval

/-- The first order of the sample agent, as a call. -/
def Sample.callA : RequestCall :=
  ⟨ControlPlane.Sample.orderA, ⟨none, none, none⟩,
    ControlPlane.Sample.inputs "operation_A" "order_A" 600⟩

end MandatePlane.OperationSessions

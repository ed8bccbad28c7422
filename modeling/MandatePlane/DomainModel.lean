import MandatePlane.JsonValue
import MandatePlane.KeyedTable

/-!
# The persistent domain layer

The enumerations, the rows of the tables the control plane reads and writes, and
the store that holds them.  Primary keys are part of the table type; every other
lookup goes through `scalarOneOrNone`, which raises on a second match as
SQLAlchemy does.  Columns that no modelled function and no statement reads are left
out.

A handler is a function of the store.  It either refuses, and the session rolls
back, or commits a new store together with the observations of what it did, in
statement order: the mandates it issued, the operations it opened, the status writes with the counters they
moved, the refunds it credited and the mutating gateway calls it made.
-/

namespace MandatePlane.DomainModel

open KeyedTable JsonValue

/-! ### Enumerations -/

inductive AgentStatus where
  | active | suspended | revoked
  deriving DecidableEq

inductive MandateStatus where
  | pendingApproval | active | suspended | expired | exhausted | revoked
  deriving DecidableEq

inductive OperationType where
  | createOrder | capturePayment | createRefund | createPaymentLink | cancelPaymentLink
  deriving DecidableEq

inductive PolicyDecisionType where
  | allow | deny | requireHumanReview
  deriving DecidableEq

inductive OperationStatus where
  | initiated | policyCheckPending | policyApproved | policyRejected | requiresApproval
  | reserved | executing | succeeded | failed | cancelled
  deriving DecidableEq

inductive TransactionStatus where
  | created | authorized | captured | refunded | failed
  deriving DecidableEq

inductive AuditAction where
  | mandateCreated | mandateRevoked | mandateSuspended | agentStatusChanged | policyEvaluated
  | budgetReserved | budgetCommitted | budgetReleased | humanApprovalGranted
  | humanApprovalRejected | transactionRecorded
  deriving DecidableEq

def AgentStatus.value : AgentStatus → String
  | active => "ACTIVE"
  | suspended => "SUSPENDED"
  | revoked => "REVOKED"

def MandateStatus.value : MandateStatus → String
  | pendingApproval => "PENDING_APPROVAL"
  | active => "ACTIVE"
  | suspended => "SUSPENDED"
  | expired => "EXPIRED"
  | exhausted => "EXHAUSTED"
  | revoked => "REVOKED"

def OperationType.value : OperationType → String
  | createOrder => "CREATE_ORDER"
  | capturePayment => "CAPTURE_PAYMENT"
  | createRefund => "CREATE_REFUND"
  | createPaymentLink => "CREATE_PAYMENT_LINK"
  | cancelPaymentLink => "CANCEL_PAYMENT_LINK"

def PolicyDecisionType.value : PolicyDecisionType → String
  | allow => "ALLOW"
  | deny => "DENY"
  | requireHumanReview => "REQUIRE_HUMAN_REVIEW"

def OperationStatus.value : OperationStatus → String
  | initiated => "INITIATED"
  | policyCheckPending => "POLICY_CHECK_PENDING"
  | policyApproved => "POLICY_APPROVED"
  | policyRejected => "POLICY_REJECTED"
  | requiresApproval => "REQUIRES_APPROVAL"
  | reserved => "RESERVED"
  | executing => "EXECUTING"
  | succeeded => "SUCCEEDED"
  | failed => "FAILED"
  | cancelled => "CANCELLED"

/-- `RESERVED` or `EXECUTING`: the operation's amount waits in `reserved_spend`. -/
def OperationStatus.inFlight (status : OperationStatus) : Bool :=
  status = .reserved || status = .executing

/-! ### Points in time -/

/-- A `datetime`: wall-clock microseconds and, unless it is naive, the offset from UTC. -/
structure DateTime where
  wallclock : ℤ
  utcoffset : Option ℤ

/-- `ensure_utc`: a naive value is read as UTC, an aware one is converted. -/
def DateTime.ensureUtc (d : DateTime) : DateTime :=
  match d.utcoffset with
  | none => { d with utcoffset := some 0 }
  | some offset => { wallclock := d.wallclock - offset, utcoffset := some 0 }

/-- The microsecond on the UTC time line a datetime stands for. -/
def DateTime.instant (d : DateTime) : ℤ := d.ensureUtc.wallclock

/-! ### Rows -/

/-- What `generate_uuid()` returns: a text that is not empty. -/
structure GeneratedId where
  text : String
  nonempty : text.isEmpty = false

structure Principal where
  id : String
  isActive : Bool

structure Agent where
  id : String
  name : String
  ownerId : String
  status : AgentStatus
  apiKeyHash : String
  agentType : String

structure Mandate where
  id : String
  agentId : String
  grantedById : String
  parentMandateId : Option String
  delegationDepth : ℤ
  maxDelegationDepth : ℤ
  status : MandateStatus
  currency : String
  maxAmountPerOp : ℤ
  aggregateSpendLimit : ℤ
  currentAggregateSpend : ℤ
  reservedSpend : ℤ
  delegatedChildBudgetAllocated : ℤ
  reviewThresholdAmount : Option ℤ
  allowedOperations : List String
  policyConfig : Dict
  suspensionReason : Option String
  version : ℤ
  validFrom : DateTime
  validUntil : DateTime
  createdAt : DateTime

structure PolicyRuleDiagnostic where
  ruleName : String
  decision : PolicyDecisionType
  passed : Bool
  reason : String
  context : Dict

structure PolicyEvaluationResult where
  decision : PolicyDecisionType
  approved : Bool
  requiresHumanReview : Bool
  operationId : String
  agentId : String
  mandateId : String
  rejectionReasons : List String
  reviewReasons : List String
  ruleDiagnostics : List PolicyRuleDiagnostic

structure FinancialOperation where
  id : String
  operationId : String
  idempotencyKey : String
  agentId : String
  mandateId : String
  operationType : OperationType
  status : OperationStatus
  amount : ℤ
  currency : String
  payload : Dict
  policyEvaluationDetails : Option PolicyEvaluationResult
  errorMessage : Option String
  approvedById : Option String
  createdAt : ℤ

structure Transaction where
  operationId : String
  gatewayOrderId : Option String
  gatewayPaymentId : Option String
  gatewayRefundId : Option String
  gatewayPaymentLinkId : Option String
  gatewayPaymentLinkUrl : Option String
  amount : ℤ
  currency : String
  status : TransactionStatus

structure WebhookEvent where
  eventId : String
  eventType : String
  payloadHash : String
  rawPayload : Json
  status : String
  processed : Bool
  processingAttempts : ℤ
  maxRetries : ℤ
  errorMessage : Option String

structure AuditEvent where
  action : AuditAction
  actorId : String
  actorType : String
  resourceId : String
  resourceType : String
  payload : Dict
  previousState : Option Dict
  newState : Option Dict

instance : Keyed Principal String := ⟨Principal.id⟩
instance : Keyed Agent String := ⟨Agent.id⟩
instance : Keyed Mandate String := ⟨Mandate.id⟩
instance : Keyed FinancialOperation String := ⟨FinancialOperation.id⟩
instance : Keyed WebhookEvent String := ⟨WebhookEvent.eventId⟩

/-! ### The relative updates of a mandate's counters -/

namespace Mandate

/-- `reserve_budget`: `reserved_spend + amount, version + 1`. -/
def reserve (amount : ℤ) (m : Mandate) : Mandate :=
  { m with reservedSpend := m.reservedSpend + amount, version := m.version + 1 }

/-- Reserved to committed: `reserved_spend - amount, current_aggregate_spend + amount`. -/
def commitReserved (amount : ℤ) (m : Mandate) : Mandate :=
  { m with
    reservedSpend := m.reservedSpend - amount
    currentAggregateSpend := m.currentAggregateSpend + amount
    version := m.version + 1 }

/-- The commit of a dispatched refund, which leaves `version` alone. -/
def commitDispatched (amount : ℤ) (m : Mandate) : Mandate :=
  { m with
    reservedSpend := m.reservedSpend - amount
    currentAggregateSpend := m.currentAggregateSpend + amount }

/-- The captured-payment fallback: committed spend grows, nothing leaves the reservation. -/
def commitUnreserved (amount : ℤ) (m : Mandate) : Mandate :=
  { m with
    currentAggregateSpend := m.currentAggregateSpend + amount
    version := m.version + 1 }

/-- `reserved_spend - amount, version + 1`. -/
def release (amount : ℤ) (m : Mandate) : Mandate :=
  { m with reservedSpend := m.reservedSpend - amount, version := m.version + 1 }

/-- A processed refund writes the new `current_aggregate_spend`. -/
def withCommitted (committed : ℤ) (m : Mandate) : Mandate :=
  { m with currentAggregateSpend := committed, version := m.version + 1 }

end Mandate

/-! ### The store -/

structure Store where
  principals : Table Principal
  agents : Table Agent
  mandates : Table Mandate
  operations : Table FinancialOperation
  transactions : List Transaction
  webhookEvents : Table WebhookEvent
  auditEvents : List AuditEvent

/-- Why a handler commits nothing: an `HTTPException`, any other exception, or no return at all. -/
inductive Refusal where
  | http (status : ℕ) (detail : String)
  | serverError
  | noReturn

inductive GatewayCall where
  | createOrder (amount : ℤ) (currency : String) (receipt : Option String)
      (notes : List (String × String))
  | createPaymentLink (amount : ℤ) (currency description : String)
      (customerName customerEmail customerContact : Option String) (notes : List (String × String))
  | createRefund (paymentId : String) (amount : ℤ) (notes : List (String × String))

/-- What a committed handler did, one observation per statement.  Each carries the operation row
as it was just before. -/
inductive Event where
  | issued (mandate : Mandate)
  | opened (op : FinancialOperation)
  | posted (op : FinancialOperation) (target : OperationStatus) (dReserved dCommitted : ℤ)
  | credited (mandateId : String) (amount : ℤ)
  | gatewayCall (op : FinancialOperation) (call : GatewayCall)

/-- A handler that returned: its answer, the committed store, the observations. -/
structure Committed (α : Type) where
  value : α
  store : Store
  events : List Event

/-- Renaming the exception leaves what returns. -/
@[simp] theorem mapError_eq_ok {ε ε' α : Type} {x : Except ε α} {f : ε → ε'} {a : α} :
    x.mapError f = .ok a ↔ x = .ok a := by
  cases x <;> simp [Except.mapError]

/-- `result.scalar_one_or_none()`; a second row raises `MultipleResultsFound`. -/
def scalarOneOrNone {α : Type} : List α → Except String (Option α)
  | [] => .ok none
  | [row] => .ok (some row)
  | _ :: _ :: _ => .error "Multiple rows were found when one or none was required"

/-- The same query where nothing catches the exception. -/
def scalarOneOrFail {α : Type} (rows : List α) : Except Refusal (Option α) :=
  (scalarOneOrNone rows).mapError fun _ => .serverError

theorem scalarOneOrNone_eq_ok {α : Type} {rows : List α} {row : Option α} :
    scalarOneOrNone rows = .ok row ↔ rows = row.toList := by
  match rows, row with
  | [], none => simp [scalarOneOrNone]
  | [], some r => simp [scalarOneOrNone]
  | [r], none => simp [scalarOneOrNone]
  | [r], some r' => simp [scalarOneOrNone]
  | _ :: _ :: _, none => simp [scalarOneOrNone]
  | _ :: _ :: _, some r => simp [scalarOneOrNone]

theorem scalarOneOrFail_eq_ok {α : Type} {rows : List α} {row : Option α} :
    scalarOneOrFail rows = .ok row ↔ rows = row.toList := by
  rw [← scalarOneOrNone_eq_ok, scalarOneOrFail, mapError_eq_ok]

/-- At most one row is none or one. -/
theorem nil_or_singleton {α : Type} {rows : List α} (h : rows.length ≤ 1) :
    rows = [] ∨ ∃ a, rows = [a] := by
  rcases Nat.le_one_iff_eq_zero_or_eq_one.mp h with h | h
  · exact .inl (List.length_eq_zero_iff.mp h)
  · exact .inr (List.length_eq_one_iff.mp h)

/-- `if not x: raise ...`. -/
def orRefuse {α : Type} (x : Option α) (refusal : Refusal) : Except Refusal α :=
  match x with
  | some a => .ok a
  | none => .error refusal

/-- `if not condition: raise ...`. -/
def ensure (condition : Bool) (refusal : Refusal) : Except Refusal Unit :=
  if condition then .ok () else .error refusal

@[simp] theorem orRefuse_eq_ok {α : Type} {x : Option α} {refusal : Refusal} {a : α} :
    orRefuse x refusal = .ok a ↔ x = some a := by
  cases x <;> simp [orRefuse]

@[simp] theorem ensure_eq_ok {condition : Bool} {refusal : Refusal} {u : Unit} :
    ensure condition refusal = .ok u ↔ condition = true := by
  cases condition <;> simp [ensure]

/-- A sequence of two computations returns when both do. -/
theorem bind_eq_ok {ε α β : Type} {x : Except ε α} {f : α → Except ε β} {b : β} :
    x >>= f = .ok b ↔ ∃ a, x = .ok a ∧ f a = .ok b := by
  cases x with
  | error e => simp [bind, Except.bind]
  | ok a => simp [bind, Except.bind]

theorem except_map_eq_ok {ε α β : Type} {x : Except ε α} {f : α → β} {b : β}
    (h : x.map f = .ok b) : ∃ a, x = .ok a ∧ f a = b := by
  cases x with
  | error e => cases h
  | ok a => exact ⟨a, rfl, Except.ok.inj h⟩

theorem except_map_eq_error {ε α β : Type} {x : Except ε α} {f : α → β} {e : ε}
    (h : x.map f = .error e) : x = .error e := by
  cases x with
  | error e' => exact congrArg Except.error (Except.error.inj h)
  | ok a => cases h

namespace FinancialOperation

/-- `operation.status = status`. -/
def moveTo (status : OperationStatus) (op : FinancialOperation) : FinancialOperation :=
  { op with status }

/-- `operation.status = status` and `operation.error_message = message`. -/
def moveToWith (status : OperationStatus) (message : Option String) (op : FinancialOperation) :
    FinancialOperation :=
  { op with status, errorMessage := message }

theorem moveTo_key (status : OperationStatus) (op : FinancialOperation) :
    Keyed.key (op.moveTo status) = Keyed.key op := key_kept rfl

theorem moveToWith_key (status : OperationStatus) (message : Option String)
    (op : FinancialOperation) : Keyed.key (op.moveToWith status message) = Keyed.key op :=
  key_kept rfl

theorem moveToWith_text_key (status : OperationStatus) (text : String) (op : FinancialOperation) :
    Keyed.key (op.moveToWith status (some text)) = Keyed.key op := moveToWith_key status _ op

theorem commitReserved_key (op : FinancialOperation) (m : Mandate) :
    Keyed.key (m.commitReserved op.amount) = Keyed.key m := key_kept rfl

theorem commitUnreserved_key (op : FinancialOperation) (m : Mandate) :
    Keyed.key (m.commitUnreserved op.amount) = Keyed.key m := key_kept rfl

theorem release_key (op : FinancialOperation) (m : Mandate) :
    Keyed.key (m.release op.amount) = Keyed.key m := key_kept rfl

end FinancialOperation

theorem Mandate.withCommitted_key (committed : ℤ) (m : Mandate) :
    Keyed.key (m.withCommitted committed) = Keyed.key m := key_kept rfl

namespace Store

/-- `UPDATE mandates SET ... WHERE id = mandateId`. -/
def updateMandate (s : Store) (mandateId : String) (f : Mandate → Mandate)
    (hf : ∀ m, Keyed.key (f m) = Keyed.key m := by intro m; exact key_kept rfl) : Store :=
  { s with mandates := s.mandates.modify mandateId f hf }

/-- Write attributes of one operation row. -/
def updateOperation (s : Store) (id : String) (f : FinancialOperation → FinancialOperation)
    (hf : ∀ op, Keyed.key (f op) = Keyed.key op := by intro op; exact key_kept rfl) : Store :=
  { s with operations := s.operations.modify id f hf }

/-- Write attributes of the transactions a query returned. -/
def updateTransactions (s : Store) (selects : Transaction → Bool) (f : Transaction → Transaction) :
    Store :=
  { s with transactions := s.transactions.map fun tx => if selects tx then f tx else tx }

def addTransaction (s : Store) (tx : Transaction) : Store :=
  { s with transactions := s.transactions ++ [tx] }

def audit (s : Store) (event : AuditEvent) : Store :=
  { s with auditEvents := s.auditEvents ++ [event] }

/-- `INSERT INTO financial_operations`; the primary key and the two unique indexes are checked. -/
def insertOperation (s : Store) (op : FinancialOperation) : Option Store :=
  if s.operations.rows.any (fun r =>
      r.operationId = op.operationId || r.idempotencyKey = op.idempotencyKey) then none
  else (s.operations.insert op).map fun operations => { s with operations }

/-- `SELECT ... WHERE operation_id = operationId`. -/
def operationByOperationId (s : Store) (operationId : String) :
    Except Refusal (Option FinancialOperation) :=
  scalarOneOrFail (s.operations.rows.filter fun op => op.operationId = operationId)

/-- `SELECT ... WHERE idempotency_key = key`. -/
def operationByIdempotencyKey (s : Store) (key : String) :
    Except Refusal (Option FinancialOperation) :=
  scalarOneOrFail (s.operations.rows.filter fun op => op.idempotencyKey = key)

/-- `SELECT ... FROM transactions WHERE operation_id = id`. -/
def transactionsOf (s : Store) (id : String) : List Transaction :=
  s.transactions.filter fun tx => tx.operationId = id

/-- `SELECT ... FROM transactions WHERE gateway_order_id = orderId`. -/
def transactionsByOrder (s : Store) (orderId : String) : List Transaction :=
  s.transactions.filter fun tx => tx.gatewayOrderId = some orderId

/-- `SELECT ... FROM transactions WHERE gateway_payment_id = paymentId`. -/
def transactionsByPayment (s : Store) (paymentId : String) : List Transaction :=
  s.transactions.filter fun tx => tx.gatewayPaymentId = some paymentId

/-- **An insert succeeds** where the three indexes are free, and adds the row. -/
theorem insertOperation_eq_some_iff {s s' : Store} {op : FinancialOperation} :
    s.insertOperation op = some s' ↔
      (∀ r ∈ s.operations.rows,
        r.operationId ≠ op.operationId ∧ r.idempotencyKey ≠ op.idempotencyKey) ∧
      ∃ operations, s.operations.insert op = some operations ∧ s' = { s with operations } := by
  have hindexes : (s.operations.rows.any fun r =>
      r.operationId = op.operationId || r.idempotencyKey = op.idempotencyKey) = true ↔
        ¬ ∀ r ∈ s.operations.rows,
          r.operationId ≠ op.operationId ∧ r.idempotencyKey ≠ op.idempotencyKey := by
    simp only [List.any_eq_true, Bool.or_eq_true, decide_eq_true_eq, not_forall, not_and_or,
      not_not, exists_prop, ne_eq]
  unfold insertOperation
  split
  · rename_i htaken
    exact iff_of_false nofun fun h => hindexes.mp htaken h.1
  · rename_i hfree
    rw [hindexes, not_not] at hfree
    rw [Option.map_eq_some_iff, and_iff_right hfree]
    simp only [eq_comm]

/-- The operation a query by `operation_id` returned. -/
theorem find?_of_operationByOperationId {s : Store} {operationId : String}
    {op : FinancialOperation} (h : s.operationByOperationId operationId = .ok (some op)) :
    s.operations.find? op.id = some op ∧ op.operationId = operationId := by
  have hrows := scalarOneOrFail_eq_ok.mp h
  have hm : op ∈ s.operations.rows.filter fun op => op.operationId = operationId := by
    rw [hrows]
    exact List.mem_singleton_self op
  rw [List.mem_filter] at hm
  exact ⟨Table.find?_of_mem hm.1, of_decide_eq_true hm.2⟩

end Store

end MandatePlane.DomainModel

import MandatePlane.RazorpayClient

/-!
# The reconciliation sweep

`reconcile_stuck_reservations`: every operation that has been RESERVED or EXECUTING
for longer than the timeout is released when no gateway call left a trace, or
settled as the gateway reports its order.  The whole sweep is one transaction; an
operation with several transaction rows makes it fail as a whole.
-/

namespace MandatePlane.ReconciliationWorker

open DomainModel KeyedTable JsonValue RazorpayClient

/-- One sweep: the clock at its start and when each operation is checked, and the answer of
`fetch_order` for each operation. -/
structure SweepInputs where
  timeoutSeconds : ℤ
  startedAt : ℤ
  checkedAt : String → ℤ
  fetchOrder : String → Except String RazorpayOrderResponse

def microseconds (seconds : ℤ) : ℤ := seconds * 1000000

/-- The rows the sweep selects, in table order. -/
def stuckOperations (inputs : SweepInputs) (s : Store) : List FinancialOperation :=
  s.operations.rows.filter fun op =>
    op.status.inFlight && op.createdAt ≤ inputs.startedAt - microseconds inputs.timeoutSeconds

/-- `not tx.gateway_order_id` and its like: no id, or an empty one. -/
def noId : Option String → Bool
  | none => true
  | some id => id.isEmpty

/-- No gateway call left a trace. -/
def undispatched : Option Transaction → Bool
  | none => true
  | some tx => noId tx.gatewayOrderId && noId tx.gatewayPaymentId && noId tx.gatewayPaymentLinkId

def workerAudit (action : AuditAction) (op : FinancialOperation) (payload : Dict) :
    AuditEvent where
  action
  actorId := "RECONCILIATION_WORKER"
  actorType := "SYSTEM"
  resourceId := op.mandateId
  resourceType := "MANDATE"
  payload
  previousState := none
  newState := none

/-- FAILED with its budget released. -/
def releaseStuck (op : FinancialOperation) (message reason : String) (s : Store) :
    Store × List Event :=
  (((s.updateOperation op.id (.moveToWith .failed (some message))
      (FinancialOperation.moveToWith_text_key .failed message)).updateMandate op.mandateId
      (Mandate.release op.amount) op.release_key).audit
        (workerAudit .budgetReleased op
          [("released_amount", .int op.amount), ("reason", .str reason)]),
    [.posted op .failed (-op.amount) 0])

/-- SUCCEEDED with its budget committed. -/
def commitStuck (op : FinancialOperation) (orderId : String) (s : Store) : Store × List Event :=
  (((s.updateOperation op.id (.moveTo .succeeded)
      (FinancialOperation.moveTo_key .succeeded)).updateTransactions
      (fun tx => tx.operationId = op.id) (fun tx => { tx with status := .captured })).updateMandate
        op.mandateId (Mandate.commitReserved op.amount) op.commitReserved_key |>.audit
          (workerAudit .budgetCommitted op
            [("committed_amount", .int op.amount), ("order_id", .str orderId)]),
    [.posted op .succeeded (-op.amount) op.amount])

/-- One round of the loop over the selected operations. -/
def reconcileOperation (inputs : SweepInputs) (op : FinancialOperation) (s : Store) :
    Except Refusal (Store × List Event) := do
  match s.mandates.find? op.mandateId with
  | none => return (s, [])
  | some _ =>
    let tx ← scalarOneOrFail (s.transactionsOf op.id)
    if undispatched tx then
      let message := "Reservation expired / process crashed before gateway dispatch"
      return releaseStuck op message message s
    else
      match tx.bind Transaction.gatewayOrderId with
      | none => return (s, [])
      | some orderId =>
        if orderId.isEmpty then return (s, [])
        else
          match inputs.fetchOrder op.id with
          | .error _ => return (s, [])
          | .ok order =>
            if order.status = "paid" then return commitStuck op orderId s
            else if (order.status = "attempted" ∨ order.status = "created") ∧
                inputs.checkedAt op.id - op.createdAt > microseconds 300 then
              return releaseStuck op "Order unpaid within timeout window" "Order unpaid timeout" s
            else return (s, [])

/-- The loop. -/
def reconcileOperations (inputs : SweepInputs) :
    List FinancialOperation → Store → Except Refusal (Store × List Event)
  | [], s => .ok (s, [])
  | op :: ops, s => do
    let first ← reconcileOperation inputs op s
    let rest ← reconcileOperations inputs ops first.1
    return (rest.1, first.2 ++ rest.2)

/-- `reconcile_stuck_reservations`; the answer is the number of operations settled. -/
def reconcileStuckReservations (inputs : SweepInputs) (s : Store) :
    Except Refusal (Committed ℕ) := do
  let swept ← reconcileOperations inputs (stuckOperations inputs s) s
  return ⟨swept.2.length, swept.1, swept.2⟩

end MandatePlane.ReconciliationWorker

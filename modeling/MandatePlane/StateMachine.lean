import MandatePlane.HostEnvironment

/-!
# The formal operation state machine

The transition matrix of `FinancialOperationStateMachine`, `can_transition` and
`validate_transition` with the text of the error it raises.  The matrix has no row
for `POLICY_CHECK_PENDING`, which therefore allows nothing but staying put.
-/

namespace MandatePlane.StateMachine

open DomainModel HostEnvironment

/-- `ALLOWED_TRANSITIONS.get(current, set())`. -/
def allowedTransitions : OperationStatus → List OperationStatus
  | .initiated => [.policyApproved, .policyRejected, .requiresApproval, .failed]
  | .requiresApproval => [.reserved, .policyRejected, .cancelled, .failed]
  | .policyApproved => [.reserved, .failed, .cancelled]
  | .reserved => [.executing, .succeeded, .failed, .cancelled]
  | .executing => [.succeeded, .failed, .cancelled]
  | .succeeded => []
  | .failed => []
  | .cancelled => []
  | .policyRejected => []
  | .policyCheckPending => []

/-- A status may be re-affirmed; otherwise the matrix decides. -/
def canTransition (current target : OperationStatus) : Bool :=
  current = target || decide (target ∈ allowedTransitions current)

/-- `str(InvalidStateTransitionError(...))`. -/
def invalidTransitionText (current target : OperationStatus) (reason : String) : String :=
  strip s!"Invalid state transition from '{current.value}' to '{target.value}'. {reason}"

/-- `validate_transition`: raises unless the transition is allowed. -/
def validateTransition (current target : OperationStatus) (contextInfo : String) :
    Except String Unit :=
  if canTransition current target then .ok ()
  else .error (invalidTransitionText current target
    (strip s!"Transition violates formal financial state machine invariants. {contextInfo}"))

/-- A status no transition leaves. -/
def Terminal (status : OperationStatus) : Prop := allowedTransitions status = []

theorem canTransition_of_terminal {current target : OperationStatus} (h : Terminal current) :
    canTransition current target = true ↔ target = current := by
  simp [canTransition, show allowedTransitions current = [] from h, eq_comm]

/-- **What may become SUCCEEDED.**  An operation in flight, or one that already has. -/
theorem canTransition_succeeded {current : OperationStatus} :
    canTransition current .succeeded = true ↔ current.inFlight = true ∨ current = .succeeded := by
  cases current <;> decide

theorem validateTransition_eq_ok {current target : OperationStatus} {info : String} {u : Unit} :
    validateTransition current target info = .ok u ↔ canTransition current target = true := by
  unfold validateTransition
  split <;> simp_all

end MandatePlane.StateMachine

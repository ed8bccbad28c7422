import MandatePlane.DeadLetters
import MandatePlane.DeploymentInvariants

/-!
# The tables beside the ledger

The principals are written by registration and by a reset, the webhook records by deliveries and
by a reset, and no other call of the deployment writes either.
-/

namespace MandatePlane.SideTables

open DomainModel KeyedTable LedgerView HostEnvironment JsonValue HandlerPostings OperationRoutes
open WebhookRoutes ReconciliationWorker MandateRoutes MandateSteps ControlPlane AgentChat
open RazorpayClient (GatewayAnswers)

/-- The tables that requests, approvals, sweeps and the administration have no part in. -/
def sideTables (s : Store) : Table Principal × Table WebhookEvent :=
  (s.principals, s.webhookEvents)

variable {env : Platform} {settings : Settings} {s s' : Store}

theorem executeGatewayOperation_side (gateway : GatewayAnswers) (mandate : Mandate)
    (operation : FinancialOperation) (payload : Dict) (s : Store) :
    sideTables (executeGatewayOperation env gateway mandate operation payload s).store =
      sideTables s := by
  unfold executeGatewayOperation
  match hattempt : (attemptGateway env gateway operation payload).2 with
  | .ok .notDispatched => simp only [hattempt]
  | .ok (.executing tx) =>
    simp only [hattempt]
    rfl
  | .ok (.settled tx) =>
    simp only [hattempt]
    rfl
  | .error text =>
    simp only [hattempt]
    rfl

theorem reserveBudget_side {mandateId : String} {amount : ℤ}
    (h : reserveBudget s mandateId amount = some s') : sideTables s' = sideTables s := by
  rw [(reserveBudget_eq_some h).1]
  rfl

theorem actOnDecision_side (payload : OperationCreate) (inputs : RequestInputs)
    (mandate : Mandate) (operation : FinancialOperation)
    (result : PolicyEvaluationResult) (s : Store) :
    sideTables (actOnDecision env payload inputs mandate operation result s).store =
      sideTables s := by
  unfold actOnDecision
  split
  · rfl
  · rfl
  · split
    · rfl
    · rename_i s₁ hreserve
      have hside := reserveBudget_side hreserve
      exact (executeGatewayOperation_side _ _ _ _ _).trans hside

theorem request_side {payload : OperationCreate} {headers : CallerAuth.CallerHeaders}
    {inputs : RequestInputs} {c : Committed FinancialOperation}
    (h : requestFinancialOperation env settings payload headers inputs s = .ok c) :
    sideTables c.store = sideTables s := by
  rcases request_returned h with ⟨existingOp, -, rfl⟩ | ⟨agent, mandate, s₁, result, hev, rfl⟩
  · rfl
  · obtain ⟨-, operations, -, rfl⟩ := Store.insertOperation_eq_some_iff.mp hev.inserted
    exact actOnDecision_side _ _ _ _ _ _

theorem approvalDone_side {approval : HumanApprovalRequest} {gateway : GatewayAnswers}
    {op : FinancialOperation} {mandate : Mandate} {c : Committed FinancialOperation}
    (h : ApprovalDone env approval gateway op mandate s c) : sideTables c.store = sideTables s := by
  cases h with
  | declined => rfl
  | exhausted => rfl
  | granted _ hreserve hdone =>
    subst hdone
    have hside := reserveBudget_side hreserve
    exact (executeGatewayOperation_side _ _ _ _ _).trans hside

theorem verifyPayment_side {operationId : String} {payload : PaymentVerifyRequest}
    {c : Committed PaymentVerified}
    (h : verifyPayment env settings operationId payload s = .ok c) :
    sideTables c.store = sideTables s := by
  obtain ⟨row, -, h⟩ := bind_eq_ok.mp h
  obtain ⟨op, -, h⟩ := bind_eq_ok.mp h
  obtain ⟨valid, -, h⟩ := bind_eq_ok.mp h
  obtain ⟨_, -, h⟩ := bind_eq_ok.mp h
  obtain ⟨tx, -, h⟩ := bind_eq_ok.mp h
  cases h
  cases tx with
  | none => rfl
  | some _ => rfl

theorem reconcileOperations_side {inputs : SweepInputs} {ops : List FinancialOperation}
    {done : Store × List Event} (h : reconcileOperations inputs ops s = .ok done) :
    sideTables done.1 = sideTables s := by
  induction ops generalizing s done with
  | nil =>
    cases h
    rfl
  | cons op ops ih =>
    obtain ⟨first, hfirst, h⟩ := bind_eq_ok.mp h
    obtain ⟨rest, hrest, h⟩ := bind_eq_ok.mp h
    cases h
    refine (ih hrest).trans ?_
    rcases reconcileOperation_spec hfirst with rfl | ⟨message, reason, rfl⟩ | ⟨orderId, rfl⟩
    · rfl
    · rfl
    · rfl

theorem cascadeLoop_side {rootId reason : String} {status : MandateStatus} {fuel : ℕ}
    {queue visited : List String}
    (h : cascadeLoop rootId status reason fuel queue visited s = some s') :
    sideTables s' = sideTables s := by
  have hone (currId : String) (s : Store) :
      sideTables (cascadeOne rootId status reason currId s) = sideTables s := by
    unfold cascadeOne
    split
    · rfl
    · rfl
  induction fuel generalizing queue visited s with
  | zero =>
    cases queue with
    | nil =>
      cases h
      rfl
    | cons currId queue => cases h
  | succ fuel ih =>
    cases queue with
    | nil =>
      cases h
      rfl
    | cons currId queue => exact (ih h).trans (hone currId s)

theorem cascade_side {status : MandateStatus} {defaultReason id : String}
    {reason : Option String} {c : Committed Mandate}
    (h : changeStatusCascade status defaultReason id reason s = .ok c) :
    sideTables c.store = sideTables s := by
  obtain ⟨mandate, -, h⟩ := bind_eq_ok.mp h
  obtain ⟨s', hloop, h⟩ := bind_eq_ok.mp h
  rw [orRefuse_eq_ok] at hloop
  cases h
  exact cascadeLoop_side hloop

/-- The domain handlers have no part in them either. -/
theorem processed_side {eventData eventType : Json} {done : Store × List Event}
    (h : Processed env eventData s eventType done) : sideTables done.1 = sideTables s := by
  cases h with
  | ignored => rfl
  | @captured _ _ _ _ _ op _ _ _ _ _ _ _ =>
    show sideTables (captureBudget op s).1 = _
    unfold captureBudget
    split
    · rfl
    · split <;> rfl
  | @failed _ _ _ _ _ op _ _ _ _ _ _ _ =>
    show sideTables (failureBudget op s).1 = _
    unfold failureBudget
    split
    · rfl
    · split <;> rfl
  | refunded _ _ _ _ _ => rfl

/-- **Only a delivery writes the tables beside the ledger.** -/
theorem perform_side (env : Platform) (settings : Settings) (s : Store) (a : Action)
    (hno : ∀ delivery, a ≠ .webhook delivery) :
    sideTables (perform env settings s a).1 = sideTables s := by
  cases a with
  | request payload headers inputs =>
    rcases outcome_cases s (requestFinancialOperation env settings payload headers inputs s) with
      h | ⟨c, hc, h⟩ <;> rw [perform, h]
    exact request_side hc
  | approve operationId approval now gateway =>
    rcases outcome_cases s (humanApproveOperation env operationId approval gateway s) with
      h | ⟨c, hc, h⟩ <;> rw [perform, h]
    obtain ⟨op, mandate, -, -, -, hdone⟩ := approval_returned hc
    exact approvalDone_side hdone
  | verify operationId payload =>
    rcases outcome_cases s (verifyPayment env settings operationId payload s) with
      h | ⟨c, hc, h⟩ <;> rw [perform, h]
    exact verifyPayment_side hc
  | webhook delivery => exact absurd rfl (hno delivery)
  | sweep inputs =>
    rcases outcome_cases s (reconcileStuckReservations inputs s) with
      h | ⟨c, hc, h⟩ <;> rw [perform, h]
    obtain ⟨swept, hswept, hc⟩ := bind_eq_ok.mp hc
    cases hc
    exact reconcileOperations_side hswept
  | create payload id now =>
    rcases outcome_cases s (createMandate env payload id.text now s) with
      h | ⟨c, hc, h⟩ <;> rw [perform, h]
    obtain ⟨agent, mandates, -, hstore, -⟩ := createMandate_spec hc
    rw [hstore]
    rfl
  | delegate parentId payload id now =>
    rcases outcome_cases s (delegateChildMandate env parentId payload id.text now s) with
      h | ⟨c, hc, h⟩ <;> rw [perform, h]
    obtain ⟨parent, currency, mandates, -, -, -, -, -, hstore, -⟩ := delegateChildMandate_spec hc
    rw [hstore]
    rfl
  | suspend mandateId reason =>
    rcases outcome_cases s (suspendMandateCascade mandateId reason s) with
      h | ⟨c, hc, h⟩ <;> rw [perform, h]
    exact cascade_side hc
  | revoke mandateId reason =>
    rcases outcome_cases s (revokeMandateCascade mandateId reason s) with
      h | ⟨c, hc, h⟩ <;> rw [perform, h]
    exact cascade_side hc
  | activate mandateId =>
    rcases outcome_cases s (activateMandate mandateId s) with h | ⟨c, hc, h⟩ <;> rw [perform, h]
    obtain ⟨mandate, -, hc⟩ := bind_eq_ok.mp hc
    obtain ⟨_, -, hc⟩ := bind_eq_ok.mp hc
    cases hc
    rfl
  | agentStatus agentId status reason =>
    rcases outcome_cases s (updateAgentStatus agentId status reason s) with
      h | ⟨c, hc, h⟩ <;> rw [perform, h]
    obtain ⟨agent, -, hc⟩ := bind_eq_ok.mp hc
    cases hc
    rfl

/-- A chat does not either. -/
theorem chat_side (agentId : String) (headers : CallerAuth.CallerHeaders) (hex : String)
    (now : DateTime) :
    sideTables (answer env settings s (.chat agentId headers hex now)).1 = sideTables s := by
  have hstep := answer_step env settings s (.chat agentId headers hex now)
  generalize answer env settings s (.chat agentId headers hex now) = done at hstep ⊢
  obtain ⟨s', events⟩ := done
  cases hstep with
  | silent => rfl
  | reissued _ => rfl

end MandatePlane.SideTables

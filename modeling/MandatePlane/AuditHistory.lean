import MandatePlane.ActiveMandates
import MandatePlane.AuditTrail
import MandatePlane.StatusRefinement

/-!
# The audit log as a history

The log only grows, and its POLICY_EVALUATED events list the stored operations: one event
for one operation, in the order in which they were stored, with the agent and the amount
that were asked for.

An operation that has come past the policy engine can be traced back in it: the engine
allowed it, or it asked for a review and an approval was granted.  That needs payments to be
verified for operations that have come that far, since a verification asks for nothing.
-/

namespace MandatePlane.AuditHistory

open DomainModel KeyedTable JsonValue LabelledRun LedgerView HostEnvironment HandlerPostings
open OperationRoutes WebhookRoutes MandateRoutes ReconciliationWorker MandateSteps ControlPlane
open AgentChat EntryPoints ActiveMandates

/-! ### Extensions of the log -/

/-- The log was extended, by events with the property. -/
def Appends (P : AuditEvent → Prop) (s s' : Store) : Prop :=
  ∃ added, s'.auditEvents = s.auditEvents ++ added ∧ ∀ e ∈ added, P e

/-- An event of another kind than a policy evaluation. -/
def NotEvaluation (e : AuditEvent) : Prop := e.action ≠ .policyEvaluated

namespace Appends

variable {P : AuditEvent → Prop} {s s' s'' : Store}

theorem of_eq (h : s'.auditEvents = s.auditEvents) : Appends P s s' :=
  ⟨[], by rw [h, List.append_nil], fun _ he => absurd he List.not_mem_nil⟩

theorem refl (s : Store) : Appends P s s := of_eq rfl

theorem trans (h : Appends P s s') (h' : Appends P s' s'') : Appends P s s'' := by
  obtain ⟨added, hadded, hP⟩ := h
  obtain ⟨added', hadded', hP'⟩ := h'
  refine ⟨added ++ added', by rw [hadded', hadded, List.append_assoc], fun e he => ?_⟩
  rcases List.mem_append.mp he with he | he
  · exact hP e he
  · exact hP' e he

theorem audit (h : Appends P s s') {e : AuditEvent} (he : P e) : Appends P s (s'.audit e) := by
  refine h.trans ⟨[e], rfl, fun e' he' => ?_⟩
  rw [List.mem_singleton.mp he']
  exact he

theorem grows (h : Appends P s s') : s.auditEvents <+: s'.auditEvents := by
  obtain ⟨added, hadded, -⟩ := h
  exact ⟨added, hadded.symm⟩

end Appends

/-! ### What the handlers add -/

section Handlers

variable {env : Platform} {settings : Settings} {s s' : Store}

theorem executeGatewayOperation_appends (gateway : RazorpayClient.GatewayAnswers)
    (mandate : Mandate) (operation : FinancialOperation) (payload : Dict) (s : Store) :
    Appends NotEvaluation s
      (executeGatewayOperation env gateway mandate operation payload s).store := by
  unfold executeGatewayOperation
  match hattempt : (attemptGateway env gateway operation payload).2 with
  | .ok .notDispatched =>
    simp only [hattempt]
    exact .refl s
  | .ok (.executing tx) =>
    simp only [hattempt]
    exact .of_eq rfl
  | .ok (.settled tx) =>
    simp only [hattempt]
    exact .of_eq rfl
  | .error text =>
    simp only [hattempt]
    refine Appends.audit (.of_eq rfl) ?_
    exact (by decide : AuditAction.budgetReleased ≠ .policyEvaluated)

theorem reserveBudget_audits {mandateId : String} {amount : ℤ}
    (h : reserveBudget s mandateId amount = some s') : s'.auditEvents = s.auditEvents := by
  rw [(reserveBudget_eq_some h).1]
  rfl

theorem actOnDecision_appends (payload : OperationCreate) (inputs : RequestInputs)
    (mandate : Mandate) (operation : FinancialOperation) (result : PolicyEvaluationResult)
    (s : Store) :
    Appends NotEvaluation s
      (actOnDecision env payload inputs mandate operation result s).store := by
  unfold actOnDecision
  split
  · exact .of_eq rfl
  · exact .of_eq rfl
  · split
    · exact .of_eq rfl
    · rename_i s₁ hreserve
      have hreserved : Appends NotEvaluation s ((s₁.updateOperation operation.id
          (.moveTo .reserved)).audit (reserveAudit mandate operation)) :=
        Appends.audit (.of_eq (reserveBudget_audits hreserve))
          (by decide : AuditAction.budgetReserved ≠ .policyEvaluated)
      exact hreserved.trans (executeGatewayOperation_appends _ _ _ _ _)

theorem approvalDone_appends {approval : HumanApprovalRequest}
    {gateway : RazorpayClient.GatewayAnswers} {op : FinancialOperation} {mandate : Mandate}
    {c : Committed FinancialOperation} (h : ApprovalDone env approval gateway op mandate s c) :
    Appends NotEvaluation s c.store := by
  cases h with
  | declined =>
    exact Appends.audit (.of_eq rfl)
      (by decide : AuditAction.humanApprovalRejected ≠ .policyEvaluated)
  | exhausted => exact .of_eq rfl
  | @granted s₁ done happroved hreserve hdone =>
    subst hdone
    have hgranted : Appends NotEvaluation s ((s₁.updateOperation op.id
        (grantApproval approval.approvedById)).audit
          (approvalAudit .humanApprovalGranted approval (grantApproval approval.approvedById op)
            [("approved_by", .str approval.approvedById), ("amount", .int op.amount)])) :=
      Appends.audit (.of_eq (reserveBudget_audits hreserve))
        (by decide : AuditAction.humanApprovalGranted ≠ .policyEvaluated)
    exact hgranted.trans (executeGatewayOperation_appends _ _ _ _ _)

theorem verifyPayment_appends {operationId : String} {payload : PaymentVerifyRequest}
    {c : Committed PaymentVerified}
    (h : verifyPayment env settings operationId payload s = .ok c) :
    Appends NotEvaluation s c.store := by
  obtain ⟨row, hrow, h⟩ := bind_eq_ok.mp h
  obtain ⟨op, hop, h⟩ := bind_eq_ok.mp h
  obtain ⟨isValid, hvalid, h⟩ := bind_eq_ok.mp h
  obtain ⟨_, htrue, h⟩ := bind_eq_ok.mp h
  obtain ⟨tx, htx, h⟩ := bind_eq_ok.mp h
  cases h
  have hcommitted : Appends NotEvaluation s
      ((s.updateMandate op.mandateId (Mandate.commitReserved op.amount)).audit (commitAudit op)) :=
    Appends.audit (.of_eq rfl) (by decide : AuditAction.budgetCommitted ≠ .policyEvaluated)
  have hpayment : Appends NotEvaluation s (recordPayment op payload.razorpayPaymentId tx
      ((s.updateMandate op.mandateId (Mandate.commitReserved op.amount)).audit
        (commitAudit op))) := by
    cases tx with
    | none => exact hcommitted
    | some _ => exact hcommitted.trans (.of_eq rfl)
  exact Appends.audit (hpayment.trans (.of_eq rfl))
    (by decide : AuditAction.transactionRecorded ≠ .policyEvaluated)

theorem captureBudget_audits (op : FinancialOperation) (s : Store) :
    (captureBudget op s).1.auditEvents = s.auditEvents := by
  unfold captureBudget
  split
  · rfl
  · split <;> rfl

theorem failureBudget_audits (op : FinancialOperation) (s : Store) :
    (failureBudget op s).1.auditEvents = s.auditEvents := by
  unfold failureBudget
  split
  · rfl
  · split <;> rfl

theorem processed_appends {eventData eventType : Json} {done : Store × List Event}
    (h : Processed env eventData s eventType done) : Appends NotEvaluation s done.1 := by
  cases h with
  | ignored => exact .refl _
  | captured _ _ _ _ _ _ =>
    exact Appends.audit (.of_eq (captureBudget_audits _ _))
      (by decide : AuditAction.budgetCommitted ≠ .policyEvaluated)
  | failed _ _ _ _ _ _ =>
    exact Appends.audit (.of_eq (failureBudget_audits _ _))
      (by decide : AuditAction.budgetReleased ≠ .policyEvaluated)
  | refunded _ _ _ _ _ => exact .of_eq rfl

theorem delivered_appends {delivery : WebhookDelivery} {events : List Event}
    (h : Delivered env settings delivery s events s') : Appends NotEvaluation s s' := by
  cases h with
  | recorded records => exact .of_eq rfl
  | @processed _ _ _ records _ _ hdone _ =>
    have hrecords : Appends NotEvaluation s (withRecords s records) := .of_eq rfl
    exact (hrecords.trans (processed_appends hdone)).trans (.of_eq rfl)

theorem reconcileOperations_appends {inputs : SweepInputs} {ops : List FinancialOperation}
    {done : Store × List Event} (h : reconcileOperations inputs ops s = .ok done) :
    Appends NotEvaluation s done.1 := by
  induction ops generalizing s done with
  | nil =>
    cases h
    exact .refl s
  | cons op ops ih =>
    obtain ⟨first, hfirst, h⟩ := bind_eq_ok.mp h
    obtain ⟨rest, hrest, h⟩ := bind_eq_ok.mp h
    cases h
    show Appends NotEvaluation s rest.1
    refine Appends.trans ?_ (ih hrest)
    rcases reconcileOperation_spec hfirst with rfl | ⟨message, reason, rfl⟩ | ⟨orderId, rfl⟩
    · exact .refl s
    · exact Appends.audit (.of_eq rfl)
        (by decide : AuditAction.budgetReleased ≠ .policyEvaluated)
    · exact Appends.audit (.of_eq rfl)
        (by decide : AuditAction.budgetCommitted ≠ .policyEvaluated)

theorem cascadeOne_appends (rootId : String) (status : MandateStatus) (reason currId : String)
    (s : Store) : Appends NotEvaluation s (cascadeOne rootId status reason currId s) := by
  unfold cascadeOne
  split
  · exact .refl s
  · refine Appends.audit (.of_eq rfl) ?_
    show (if status = .revoked then AuditAction.mandateRevoked else .mandateSuspended) ≠ _
    split <;> decide

theorem cascadeLoop_appends {rootId reason : String} {status : MandateStatus} {fuel : ℕ}
    {queue visited : List String}
    (h : cascadeLoop rootId status reason fuel queue visited s = some s') :
    Appends NotEvaluation s s' := by
  induction fuel generalizing queue visited s with
  | zero =>
    cases queue with
    | nil =>
      cases h
      exact .refl _
    | cons currId queue => cases h
  | succ fuel ih =>
    cases queue with
    | nil =>
      cases h
      exact .refl _
    | cons currId queue => exact (cascadeOne_appends _ _ _ _ _).trans (ih h)

theorem cascade_appends {status : MandateStatus} {defaultReason id : String}
    {reason : Option String} {c : Committed Mandate}
    (h : changeStatusCascade status defaultReason id reason s = .ok c) :
    Appends NotEvaluation s c.store := by
  obtain ⟨mandate, -, h⟩ := bind_eq_ok.mp h
  obtain ⟨s', hloop, h⟩ := bind_eq_ok.mp h
  rw [orRefuse_eq_ok] at hloop
  cases h
  exact cascadeLoop_appends hloop

end Handlers

/-! ### The evaluations list the operations -/

/-- What a POLICY_EVALUATED event says: the operation's public id, its agent and its amount. -/
def evaluationOf (e : AuditEvent) : Option (String × String × Json) :=
  if e.action = .policyEvaluated then
    some (e.resourceId, e.actorId, dictGet e.payload "amount" .null)
  else none

def subjectOf (op : FinancialOperation) : String × String × Json :=
  (op.operationId, op.agentId, .int op.amount)

def subjects (s : Store) : List (String × String × Json) := s.operations.rows.map subjectOf

/-- **One history**: the events added evaluate the operations added, in the same order. -/
def Listed (s s' : Store) : Prop :=
  ∃ added, s'.auditEvents = s.auditEvents ++ added ∧
    subjects s' = subjects s ++ added.filterMap evaluationOf

section Listings

variable {env : Platform} {settings : Settings} {s s' s'' : Store} {a : Action}
  {events : List Event}

theorem Listed.refl (s : Store) : Listed s s := ⟨[], by simp, by simp⟩

theorem Listed.trans (h : Listed s s') (h' : Listed s' s'') : Listed s s'' := by
  obtain ⟨added, haudits, hsubjects⟩ := h
  obtain ⟨added', haudits', hsubjects'⟩ := h'
  refine ⟨added ++ added', by rw [haudits', haudits, List.append_assoc], ?_⟩
  rw [hsubjects', hsubjects, List.filterMap_append, List.append_assoc]

theorem subjects_of_orders (s : Store) : subjects s = (orders s).rows.map subjectOf := by
  show _ = (s.operations.rows.map orderOf).map subjectOf
  rw [List.map_map]
  rfl

/-- A step that stores no operation and adds no evaluation. -/
theorem Appends.listed (h : Appends NotEvaluation s s') (horders : orders s' = orders s) :
    Listed s s' := by
  obtain ⟨added, haudits, hnone⟩ := h
  refine ⟨added, haudits, ?_⟩
  have hquiet : added.filterMap evaluationOf = [] :=
    List.filterMap_eq_nil_iff.mpr fun e he => if_neg (hnone e he)
  rw [hquiet, List.append_nil, subjects_of_orders, subjects_of_orders, horders]

/-- A request that stores its operation adds the operation's evaluation. -/
theorem listed_requested {payload : OperationCreate} {inputs : RequestInputs} {s₁ : Store}
    {result : PolicyEvaluationResult}
    (hevaluated : s₁.auditEvents = s.auditEvents ++
      [evaluationAudit payload (newOperation env payload inputs) result])
    (happends : Appends NotEvaluation s₁ s')
    (hordered : (orders s).insert (orderOf (newOperation env payload inputs)) = some (orders s')) :
    Listed s s' := by
  obtain ⟨added, haudits, hnone⟩ := happends
  have hrows : (orders s').rows =
      (orders s).rows ++ [orderOf (newOperation env payload inputs)] := by
    unfold Table.insert at hordered
    split at hordered
    · cases hordered
    · rw [← Option.some.inj hordered]
  have hquiet : added.filterMap evaluationOf = [] :=
    List.filterMap_eq_nil_iff.mpr fun e he => if_neg (hnone e he)
  refine ⟨[evaluationAudit payload (newOperation env payload inputs) result] ++ added, ?_, ?_⟩
  · rw [haudits, hevaluated, List.append_assoc]
  · rw [List.filterMap_append, hquiet, List.append_nil, subjects_of_orders, subjects_of_orders,
      hrows, List.map_append]
    rfl

/-- What a request did and what it added to the log, with one evaluation in both. -/
theorem request_history {payload : OperationCreate} {headers : CallerAuth.CallerHeaders}
    {inputs : RequestInputs} {c : Committed FinancialOperation}
    (h : requestFinancialOperation env settings payload headers inputs s = .ok c) :
    (c.store = s ∧ c.events = []) ∨ ∃ agent mandate result s₁,
      Requested env settings payload headers inputs s c.events c.store agent mandate result ∧
        s₁.auditEvents = s.auditEvents ++
          [evaluationAudit payload (newOperation env payload inputs) result] ∧
        Appends NotEvaluation s₁ c.store := by
  rcases requestFinancialOperation_spec h with hsame | ⟨agent, mandate, result, hreq⟩
  · exact .inl hsame
  · rcases request_returned h with ⟨existingOp, hexisting, -⟩ | ⟨agent', mandate', s₁, result', hev, hc⟩
    · exact absurd (hreq.fresh.symm.trans hexisting) (by simp)
    · obtain rfl : agent' = agent := Option.some.inj (hev.agentFound.symm.trans hreq.agentFound)
      obtain rfl : mandate' = mandate :=
        Option.some.inj (hev.mandateFound.symm.trans hreq.mandateFound)
      obtain rfl : result' = result := Except.ok.inj (hev.evaluated.symm.trans hreq.evaluated)
      refine .inr ⟨agent', mandate', result',
        recordEvaluation payload (newOperation env payload inputs) result' s₁, hreq, ?_, ?_⟩
      · show s₁.auditEvents ++ _ = _
        rw [LedgerView.insertOperation_audits hev.inserted]
      · rw [hc]
        exact actOnDecision_appends _ _ _ _ _ _

/-- **What a call of the control plane adds**, requests aside. -/
theorem perform_appends (env : Platform) (settings : Settings) (s : Store) (a : Action)
    (hno : ∀ payload headers inputs, a ≠ .request payload headers inputs) :
    Appends NotEvaluation s (perform env settings s a).1 := by
  cases a with
  | request payload headers inputs => exact absurd rfl (hno payload headers inputs)
  | approve operationId approval now gateway =>
    rcases outcome_cases s (humanApproveOperation env operationId approval gateway s) with
      h | ⟨c, hc, h⟩ <;> rw [perform, h]
    · exact .refl s
    · obtain ⟨op, mandate, -, -, -, hdone⟩ := approval_returned hc
      exact approvalDone_appends hdone
  | verify operationId payload =>
    rcases outcome_cases s (verifyPayment env settings operationId payload s) with
      h | ⟨c, hc, h⟩ <;> rw [perform, h]
    · exact .refl s
    · exact verifyPayment_appends hc
  | webhook delivery =>
    rcases outcome_cases s (handleRazorpayWebhook env settings delivery s) with
      h | ⟨c, hc, h⟩ <;> rw [perform, h]
    · exact .refl s
    · exact delivered_appends (handleRazorpayWebhook_spec hc)
  | sweep inputs =>
    rcases outcome_cases s (reconcileStuckReservations inputs s) with
      h | ⟨c, hc, h⟩ <;> rw [perform, h]
    · exact .refl s
    · obtain ⟨swept, hswept, hc⟩ := bind_eq_ok.mp hc
      cases hc
      exact reconcileOperations_appends hswept
  | create payload id now =>
    rcases outcome_cases s (createMandate env payload id.text now s) with
      h | ⟨c, hc, h⟩ <;> rw [perform, h]
    · exact .refl s
    · obtain ⟨agent, mandates, -, hstore, -⟩ := createMandate_spec hc
      rw [hstore]
      exact Appends.audit (.of_eq rfl)
        (by decide : AuditAction.mandateCreated ≠ .policyEvaluated)
  | delegate parentId payload id now =>
    rcases outcome_cases s (delegateChildMandate env parentId payload id.text now s) with
      h | ⟨c, hc, h⟩ <;> rw [perform, h]
    · exact .refl s
    · obtain ⟨parent, currency, mandates, -, -, -, -, -, hstore, -⟩ :=
        delegateChildMandate_spec hc
      rw [hstore]
      exact Appends.audit (.of_eq rfl)
        (by decide : AuditAction.mandateCreated ≠ .policyEvaluated)
  | suspend mandateId reason =>
    rcases outcome_cases s (suspendMandateCascade mandateId reason s) with
      h | ⟨c, hc, h⟩ <;> rw [perform, h]
    · exact .refl s
    · exact cascade_appends hc
  | revoke mandateId reason =>
    rcases outcome_cases s (revokeMandateCascade mandateId reason s) with
      h | ⟨c, hc, h⟩ <;> rw [perform, h]
    · exact .refl s
    · exact cascade_appends hc
  | activate mandateId =>
    rcases outcome_cases s (activateMandate mandateId s) with h | ⟨c, hc, h⟩ <;> rw [perform, h]
    · exact .refl s
    · obtain ⟨mandate, -, hc⟩ := bind_eq_ok.mp hc
      obtain ⟨_, -, hc⟩ := bind_eq_ok.mp hc
      cases hc
      exact .of_eq rfl
  | agentStatus agentId status reason =>
    rcases outcome_cases s (updateAgentStatus agentId status reason s) with
      h | ⟨c, hc, h⟩ <;> rw [perform, h]
    · exact .refl s
    · obtain ⟨agent, -, hc⟩ := bind_eq_ok.mp hc
      cases hc
      exact Appends.audit (.of_eq rfl)
        (by decide : AuditAction.agentStatusChanged ≠ .policyEvaluated)

theorem listed_perform (env : Platform) (settings : Settings) (s : Store) (a : Action) :
    Listed s (perform env settings s a).1 := by
  cases a with
  | request payload headers inputs =>
    rcases outcome_cases s (requestFinancialOperation env settings payload headers inputs s) with
      h | ⟨c, hc, h⟩ <;> rw [perform, h]
    · exact .refl s
    · rcases request_history hc with ⟨hs, -⟩ | ⟨agent, mandate, result, s₁, hreq, haudits, happends⟩
      · rw [hs]
        exact .refl s
      · exact listed_requested haudits happends hreq.ordered
  | _ =>
    refine Appends.listed (perform_appends env settings s _ (fun _ _ _ h => by cases h)) ?_
    rcases (perform_step env settings s _).orders_cases with he | ⟨_, _, _, _, _, _, h, -⟩
    · exact he
    · cases h

theorem listed_call (c : Call) : Listed s (answer env settings s c).1 := by
  cases c with
  | control a => exact listed_perform env settings s a
  | chat agentId headers hex now =>
    rcases chat_cases env settings s agentId headers hex now with
      hsame | ⟨agent, mandates, -, -, -, hissued⟩
    · rw [hsame]
      exact .refl s
    · rw [hissued]
      exact Appends.listed (.of_eq rfl) rfl

theorem listed_activity (host : Conversions) (d : Database) (act : Activity) :
    Listed d.store ((system env settings host).next d act).store := by
  cases act with
  | enter e =>
    obtain ⟨calls, -, hrun, -⟩ := @enter_reached env settings host d e
    show Listed d.store (enter env settings host d e).1.store
    rw [← hrun]
    exact Machine.inv_run (M := interactivePlane env settings) (I := Listed d.store)
      (P := fun _ _ => True) (fun s c hI _ => hI.trans (listed_call c)) (.refl _)
      (Machine.along_of_forall fun _ _ _ => trivial)
  | control a => exact listed_perform env settings d.store a

end Listings

/-- **The audit log is append-only and lists every operation once.**  Over every run of the system,
from any database, the log is extended at its end, and the policy evaluations among the new events
are those of the operations stored meanwhile: one for each, in their order, with the agent and the
amount of the request. -/
theorem evaluations_list_operations (env : Platform) (settings : Settings) (host : Conversions)
    (d : Database) (activities : List Activity) :
    Listed d.store ((system env settings host).run d activities).store :=
  Machine.inv_run (M := system env settings host) (I := fun d' => Listed d.store d'.store)
    (P := fun _ _ => True) (fun d' act hI _ => hI.trans (listed_activity host d' act))
    (.refl d.store) (Machine.along_of_forall fun _ _ _ => trivial)

/-! ### Authorisations on record -/

/-- A status past the policy engine's decision: RESERVED, or one that follows it. -/
def acted : OperationStatus → Bool
  | .reserved => true
  | .executing => true
  | .succeeded => true
  | .failed => true
  | _ => false

theorem acted_of_inFlight {status : OperationStatus} (h : status.inFlight = true) :
    acted status = true := by
  cases status <;> first | rfl | exact absurd h (by decide)

/-- The operation with this id has come past the decision. -/
def ActedIn (id : String) (L : Books) : Prop :=
  ∃ hold, L.holds.find? id = some hold ∧ acted hold.phase = true

/-- The operation with this id waits for an approval. -/
def ParkedIn (id : String) (L : Books) : Prop :=
  ∃ hold, L.holds.find? id = some hold ∧ hold.phase = .requiresApproval

section Origins

variable {L : Books} {e : Event} {events : List Event} {id : String}

/-- A status past the decision that a posting did not bring about was past it before. -/
theorem acted_of_posting {acc : Option (HoldLedger.Account String ℤ)} {amount : ℤ}
    {source target : OperationStatus} {dReserved dCommitted : ℤ}
    (h : Posting acc amount source target dReserved dCommitted) (htarget : acted target = true)
    (hne : target ≠ .reserved) : acted source = true := by
  cases h with
  | reject _ => cases htarget
  | park => cases htarget
  | reserve _ _ _ => exact absurd rfl hne
  | execute => rfl
  | commit hflight => exact acted_of_inFlight hflight
  | release hflight => exact acted_of_inFlight hflight
  | commitUncovered hflight _ _ => exact acted_of_inFlight hflight
  | releaseUncovered hflight _ _ => exact acted_of_inFlight hflight
  | commitUnfunded hflight _ => exact acted_of_inFlight hflight
  | releaseUnfunded hflight _ => exact acted_of_inFlight hflight

/-- Where the hold of an operation comes from: from before, from its posting or its opening. -/
theorem hold_origin {hold : HoldLedger.Hold String String OperationStatus ℤ}
    (hfind : (eventBook.next L e).holds.find? id = some hold) :
    L.holds.find? id = some hold ∨
      (∃ op target dReserved dCommitted, e = .posted op target dReserved dCommitted ∧
        op.id = id ∧ hold.phase = target) ∨
      ∃ op, e = .opened op ∧ hold.phase = op.status := by
  cases e with
  | issued _ => exact .inl hfind
  | credited _ _ => exact .inl hfind
  | gatewayCall _ _ => exact .inl hfind
  | opened op =>
    cases hinsert : L.holds.insert (operationHold op) with
    | none =>
      have hsame : (eventBook.next L (.opened op)).holds = L.holds := by
        show (L.holds.insert (operationHold op)).getD L.holds = L.holds
        rw [hinsert]
        rfl
      rw [hsame] at hfind
      exact .inl hfind
    | some holds =>
      have hinserted : (eventBook.next L (.opened op)).holds = holds := by
        show (L.holds.insert (operationHold op)).getD L.holds = holds
        rw [hinsert]
        rfl
      rw [hinserted, Table.find?_insert hinsert] at hfind
      split at hfind
      · cases hfind
        exact .inr (.inr ⟨op, rfl, rfl⟩)
      · exact .inl hfind
  | posted op target dReserved dCommitted =>
    have hmoved := HoldLedger.holds_enter_post L op.id id op.mandateId target dReserved dCommitted
    have hfind' : (L.enter (.post op.id op.mandateId target dReserved dCommitted)).holds.find? id =
        some hold := hfind
    rw [hmoved] at hfind'
    split at hfind'
    · rename_i hid
      obtain ⟨before, -, rfl⟩ := Option.map_eq_some_iff.mp hfind'
      exact .inr (.inl ⟨op, target, dReserved, dCommitted, rfl, hid.symm, rfl⟩)
    · exact .inl hfind'

/-- **Only a reservation brings an operation past the decision.** -/
theorem actedIn_origin (hruled : eventBook.Along EventRule L events)
    (h : ActedIn id (eventBook.run L events)) :
    ActedIn id L ∨ ∃ op dReserved dCommitted,
      .posted op .reserved dReserved dCommitted ∈ events ∧ op.id = id := by
  induction events generalizing L with
  | nil => exact .inl h
  | cons e events ih =>
    rcases ih hruled.2 h with ⟨hold, hfind, hacted⟩ | ⟨op, dReserved, dCommitted, hm, hid⟩
    · rcases hold_origin hfind with hbefore | ⟨op, target, dReserved, dCommitted, rfl, hid, hphase⟩ |
        ⟨op, rfl, hphase⟩
      · exact .inl ⟨hold, hbefore, hacted⟩
      · by_cases hreserved : target = .reserved
        · subst hreserved
          exact .inr ⟨op, dReserved, dCommitted, List.mem_cons_self, hid⟩
        · refine .inl ⟨operationHold op, hid ▸ hruled.1.1, ?_⟩
          exact acted_of_posting hruled.1.2 (hphase ▸ hacted) hreserved
      · rw [hphase, hruled.1.1] at hacted
        cases hacted
    · exact .inr ⟨op, dReserved, dCommitted, List.mem_cons_of_mem _ hm, hid⟩

/-- **Only a request parks.** -/
theorem parkedIn_origin (hruled : eventBook.Along EventRule L events)
    (h : ParkedIn id (eventBook.run L events)) :
    ParkedIn id L ∨ ∃ op dReserved dCommitted,
      .posted op .requiresApproval dReserved dCommitted ∈ events ∧ op.id = id := by
  induction events generalizing L with
  | nil => exact .inl h
  | cons e events ih =>
    rcases ih hruled.2 h with ⟨hold, hfind, hparked⟩ | ⟨op, dReserved, dCommitted, hm, hid⟩
    · rcases hold_origin hfind with hbefore | ⟨op, target, dReserved, dCommitted, rfl, hid, hphase⟩ |
        ⟨op, rfl, hphase⟩
      · exact .inl ⟨hold, hbefore, hparked⟩
      · rw [hphase] at hparked
        subst hparked
        exact .inr ⟨op, dReserved, dCommitted, List.mem_cons_self, hid⟩
      · rw [hphase, hruled.1.1] at hparked
        cases hparked
    · exact .inr ⟨op, dReserved, dCommitted, List.mem_cons_of_mem _ hm, hid⟩

end Origins

/-- The evaluation of the operation is on record, with its amount and this decision. -/
def EvaluatedAs (s : Store) (op : FinancialOperation) (decision : PolicyDecisionType) : Prop :=
  ∃ e ∈ s.auditEvents, evaluationOf e = some (subjectOf op) ∧
    dictGet e.payload "decision" .null = .str decision.value

/-- An approval of the operation is on record, with its amount. -/
def SignedOff (s : Store) (op : FinancialOperation) : Prop :=
  ∃ e ∈ s.auditEvents, e.action = .humanApprovalGranted ∧ e.resourceId = op.operationId ∧
    dictGet e.payload "amount" .null = .int op.amount

/-- The engine allowed the operation, or asked for a review that was granted. -/
def Authorised (s : Store) (op : FinancialOperation) : Prop :=
  EvaluatedAs s op .allow ∨ EvaluatedAs s op .requireHumanReview ∧ SignedOff s op

/-- **On record**: what has come past the decision was authorised, what waits was sent to review. -/
structure OnRecord (s : Store) : Prop where
  parked : ∀ op ∈ s.operations.rows, op.status = .requiresApproval →
    EvaluatedAs s op .requireHumanReview
  acted : ∀ op ∈ s.operations.rows, acted op.status = true → Authorised s op

/-- A payment is verified only for an operation that has come past the decision. -/
def VerifiesActed (env : Platform) (settings : Settings) (s : Store) : Action → Prop
  | .verify operationId payload => ∀ op tx, Verified env settings s operationId payload op tx →
      acted op.status = true
  | _ => True

section Authorisations

variable {env : Platform} {settings : Settings} {s s' : Store} {op op' : FinancialOperation}

theorem subjectOf_of_order (h : orderOf op' = orderOf op) : subjectOf op' = subjectOf op := by
  show subjectOf (orderOf op') = subjectOf (orderOf op)
  rw [h]

theorem EvaluatedAs.kept {decision : PolicyDecisionType} (h : EvaluatedAs s op decision)
    (hgrows : s.auditEvents <+: s'.auditEvents) (hsubject : subjectOf op' = subjectOf op) :
    EvaluatedAs s' op' decision := by
  obtain ⟨e, he, hevaluation, hdecision⟩ := h
  exact ⟨e, hgrows.subset he, hevaluation.trans (congrArg some hsubject.symm), hdecision⟩

theorem SignedOff.kept (h : SignedOff s op) (hgrows : s.auditEvents <+: s'.auditEvents)
    (hsubject : subjectOf op' = subjectOf op) : SignedOff s' op' := by
  obtain ⟨e, he, haction, hid, hamount⟩ := h
  have hoperation : op'.operationId = op.operationId := congrArg Prod.fst hsubject
  have hsame : Json.int op'.amount = .int op.amount := congrArg (fun t => t.2.2) hsubject
  exact ⟨e, hgrows.subset he, haction, hid.trans hoperation.symm, hamount.trans hsame.symm⟩

theorem Authorised.kept (h : Authorised s op) (hgrows : s.auditEvents <+: s'.auditEvents)
    (hsubject : subjectOf op' = subjectOf op) : Authorised s' op' := by
  rcases h with h | ⟨h, hsigned⟩
  · exact .inl (h.kept hgrows hsubject)
  · exact .inr ⟨h.kept hgrows hsubject, hsigned.kept hgrows hsubject⟩

theorem Listed.grows (h : Listed s s') : s.auditEvents <+: s'.auditEvents := by
  obtain ⟨added, haudits, -⟩ := h
  exact ⟨added, haudits.symm⟩

/-- What a request did to its operation, by the decision on it. -/
theorem requested_posted {payload : OperationCreate} {headers : CallerAuth.CallerHeaders}
    {inputs : RequestInputs} {events : List Event} {agent : Agent} {mandate : Mandate}
    {result : PolicyEvaluationResult}
    (hreq : Requested env settings payload headers inputs s events s' agent mandate result)
    {target : OperationStatus} {dReserved dCommitted : ℤ}
    (hm : .posted op target dReserved dCommitted ∈ events) :
    op.id = inputs.id ∧ (target = .reserved → result.decision = .allow) ∧
      (target = .requiresApproval → result.decision = .requireHumanReview) := by
  cases hreq.decided with
  | rejected _ _ _ =>
    simp only [List.mem_cons, reduceCtorEq, Event.posted.injEq, List.not_mem_nil, or_false,
      false_or] at hm
    obtain ⟨rfl, rfl, -⟩ := hm
    exact ⟨rfl, fun h => (by cases h), fun h => (by cases h)⟩
  | parked hdecision _ _ =>
    simp only [List.mem_cons, reduceCtorEq, Event.posted.injEq, List.not_mem_nil, or_false,
      false_or] at hm
    obtain ⟨rfl, rfl, -⟩ := hm
    exact ⟨rfl, fun h => (by cases h), fun _ => hdecision⟩
  | dispatched hdecision _ done hdone =>
    subst hdone
    simp only [List.mem_cons, reduceCtorEq, Event.posted.injEq, false_or] at hm
    rcases hm with ⟨rfl, rfl, -⟩ | hm
    · exact ⟨rfl, fun _ => hdecision, fun h => (by cases h)⟩
    · rcases executeGatewayOperation_events hm with ⟨_, -, h⟩ | h | h | h <;> cases h <;>
        exact ⟨rfl, fun h => (by cases h), fun h => (by cases h)⟩

/-- The evaluation a request adds, as it is on record. -/
theorem evaluatedAs_requested {payload : OperationCreate} {inputs : RequestInputs} {s₁ : Store}
    {result : PolicyEvaluationResult}
    (haudits : s₁.auditEvents = s.auditEvents ++
      [evaluationAudit payload (newOperation env payload inputs) result])
    (happends : Appends NotEvaluation s₁ s')
    (hsubject : subjectOf op = subjectOf (newOperation env payload inputs)) :
    EvaluatedAs s' op result.decision := by
  refine ⟨evaluationAudit payload (newOperation env payload inputs) result,
    happends.grows.subset ?_, ?_, ?_⟩
  · rw [haudits]
    exact List.mem_append_right _ (List.mem_singleton_self _)
  · rw [hsubject]
    rfl
  · simp [evaluationAudit, dictGet, List.lookup_cons]

/-- **A granted approval is on record.** -/
theorem approval_history {operationId : String} {approval : HumanApprovalRequest}
    {gateway : RazorpayClient.GatewayAnswers} {c : Committed FinancialOperation}
    (h : humanApproveOperation env operationId approval gateway s = .ok c)
    {posted : FinancialOperation} {dReserved dCommitted : ℤ}
    (hm : .posted posted .reserved dReserved dCommitted ∈ c.events) :
    s.operations.find? posted.id = some posted ∧ posted.status = .requiresApproval ∧
      SignedOff c.store posted := by
  obtain ⟨op, mandate, hrow, hstatus, hmandate, hdone⟩ := approval_returned h
  obtain ⟨hself, -⟩ := Store.find?_of_operationByOperationId hrow
  cases hdone with
  | declined => simp at hm
  | exhausted => simp at hm
  | @granted s₁ done happroved hreserve hdone =>
    subst hdone
    have hposted : posted = op := by
      rcases List.mem_cons.mp hm with hm | hm
      · cases hm
        rfl
      · rcases executeGatewayOperation_events hm with ⟨_, -, h⟩ | h | h | h <;> cases h
    subst hposted
    refine ⟨hself, hstatus, approvalAudit .humanApprovalGranted approval
      (grantApproval approval.approvedById posted)
      [("approved_by", .str approval.approvedById), ("amount", .int posted.amount)], ?_, rfl, rfl, ?_⟩
    · refine (executeGatewayOperation_appends _ _ _ _ _).grows.subset ?_
      exact List.mem_append_right _ (List.mem_singleton_self _)
    · simp [approvalAudit, dictGet, List.lookup_cons]

/-- A stored operation with the status behind a hold of the ledger. -/
theorem stored_of_hold {id : String} {hold : HoldLedger.Hold String String OperationStatus ℤ}
    (hfind : (ledger s).holds.find? id = some hold) :
    ∃ op ∈ s.operations.rows, s.operations.find? id = some op ∧ op.status = hold.phase := by
  rw [holds_find?] at hfind
  obtain ⟨op, hop, rfl⟩ := Option.map_eq_some_iff.mp hfind
  exact ⟨op, Table.mem_of_find? hop, hop, rfl⟩

/-- Where an operation past the decision, or a parked one, comes from. -/
theorem origin_step {a : Action} {events : List Event} (h : Step env settings s a events s')
    (hverify : VerifiesActed env settings s a) (hop' : op' ∈ s'.operations.rows) :
    (acted op'.status = true → (∃ op ∈ s.operations.rows, acted op.status = true ∧
        subjectOf op' = subjectOf op) ∨ ∃ op dReserved dCommitted,
          .posted op .reserved dReserved dCommitted ∈ events ∧ op.id = op'.id) ∧
      (op'.status = .requiresApproval → (∃ op ∈ s.operations.rows,
        op.status = .requiresApproval ∧ subjectOf op' = subjectOf op) ∨
          ∃ op dReserved dCommitted,
            .posted op .requiresApproval dReserved dCommitted ∈ events ∧ op.id = op'.id) := by
  have hfind' : s'.operations.find? op'.id = some op' := Table.find?_of_mem hop'
  have hhold : (ledger s').holds.find? op'.id = some (operationHold op') := by
    rw [holds_find?, hfind']
    rfl
  have hkept {op : FinancialOperation} (hop : s.operations.find? op'.id = some op) :
      subjectOf op' = subjectOf op := by
    obtain ⟨op'', hop'', horder⟩ := h.operation_kept hop
    rw [hfind'] at hop''
    cases hop''
    exact subjectOf_of_order horder
  have hbefore {hold : HoldLedger.Hold String String OperationStatus ℤ}
      (hfind : (ledger s).holds.find? op'.id = some hold) :
      ∃ op ∈ s.operations.rows, op.status = hold.phase ∧ subjectOf op' = subjectOf op := by
    obtain ⟨op, hmem, hop, hphase⟩ := stored_of_hold hfind
    exact ⟨op, hmem, hphase, hkept hop⟩
  have hlog : eventBook.Along EventRule (ledger s) events ∨
      ∃ op, s.operations.find? op.id = some op ∧ acted op.status = true ∧
        events = [.posted op .succeeded (-op.amount) op.amount] := by
    cases a with
    | verify operationId payload =>
      rcases StatusRefinement.verify_log h with rfl | ⟨op, tx, hv, rfl⟩
      · exact .inl trivial
      · exact .inr ⟨op, hv.self, hverify op tx hv, rfl⟩
    | _ => exact .inl (h.ruled trivial)
  rw [h.books] at hhold
  rcases hlog with hruled | ⟨op, hop, hactedOp, rfl⟩
  · constructor
    · intro hacted
      rcases actedIn_origin hruled ⟨_, hhold, hacted⟩ with ⟨hold, hfind, hphase⟩ | hposted
      · obtain ⟨op, hmem, hstatus, hsubject⟩ := hbefore hfind
        exact .inl ⟨op, hmem, hstatus ▸ hphase, hsubject⟩
      · exact .inr hposted
    · intro hparked
      rcases parkedIn_origin hruled ⟨_, hhold, hparked⟩ with ⟨hold, hfind, hphase⟩ | hposted
      · obtain ⟨op, hmem, hstatus, hsubject⟩ := hbefore hfind
        exact .inl ⟨op, hmem, hstatus.trans hphase, hsubject⟩
      · exact .inr hposted
  · -- the one commit of a verification, of an operation past the decision
    rcases hold_origin hhold with hfind | ⟨posted, target, _, _, hposting, hid, hphase⟩ | ⟨_, h', -⟩
    · obtain ⟨op₁, hmem, hstatus, hsubject⟩ := hbefore hfind
      have hsame : op₁.status = op'.status := hstatus
      exact ⟨fun hacted => .inl ⟨op₁, hmem, hsame ▸ hacted, hsubject⟩,
        fun hparked => .inl ⟨op₁, hmem, hsame.trans hparked, hsubject⟩⟩
    · cases hposting
      refine ⟨fun _ => .inl ⟨op, Table.mem_of_find? hop, hactedOp, hkept (hid ▸ hop)⟩,
        fun hparked => ?_⟩
      have hsucceeded : op'.status = .succeeded := hphase
      rw [hsucceeded] at hparked
      cases hparked
    · cases h'

/-- What a request that reserves or parks has put on record about the stored operation. -/
theorem evaluatedAs_of_request {payload : OperationCreate} {headers : CallerAuth.CallerHeaders}
    {inputs : RequestInputs} {target : OperationStatus} {dReserved dCommitted : ℤ}
    (hop' : op' ∈ (perform env settings s (.request payload headers inputs)).1.operations.rows)
    (hm : .posted op target dReserved dCommitted ∈
      (perform env settings s (.request payload headers inputs)).2) (hid : op.id = op'.id) :
    (target = .reserved →
        EvaluatedAs (perform env settings s (.request payload headers inputs)).1 op' .allow) ∧
      (target = .requiresApproval →
        EvaluatedAs (perform env settings s (.request payload headers inputs)).1 op'
          .requireHumanReview) := by
  rcases outcome_cases s (requestFinancialOperation env settings payload headers inputs s) with
    h | ⟨c, hc, h⟩ <;> rw [perform, h] at hm hop' ⊢
  · cases hm
  · rcases request_history hc with ⟨-, he⟩ | ⟨agent, mandate, result, s₁, hreq, haudits, happends⟩
    · rw [he] at hm
      cases hm
    · obtain ⟨hnew, hallow, hreview⟩ := requested_posted hreq hm
      have hordered : (orders c.store).find? op'.id =
          some (orderOf (newOperation env payload inputs)) := by
        rw [← hid, hnew]
        exact Table.find?_insert_self hreq.ordered
      have hfind' : c.store.operations.find? op'.id = some op' := Table.find?_of_mem hop'
      rw [orders_find?, hfind'] at hordered
      have hrecorded := evaluatedAs_requested haudits happends
        (subjectOf_of_order (Option.some.inj hordered))
      exact ⟨fun ht => hallow ht ▸ hrecorded, fun ht => hreview ht ▸ hrecorded⟩

theorem evaluated_of_parked {a : Action} {dReserved dCommitted : ℤ}
    (hop' : op' ∈ (perform env settings s a).1.operations.rows)
    (hm : .posted op .requiresApproval dReserved dCommitted ∈ (perform env settings s a).2)
    (hid : op.id = op'.id) :
    EvaluatedAs (perform env settings s a).1 op' .requireHumanReview := by
  rcases (perform_step env settings s a).dispatch_cases with
    ⟨payload, headers, inputs, agent, mandate, result, rfl, hreq⟩ |
    ⟨operationId, approval, now, gateway, op₀, mandate, rfl, hfound, hstatus, hmandate, happ⟩ |
    hsettling
  · exact (evaluatedAs_of_request hop' hm hid).2 rfl
  · -- an approval parks nothing
    generalize (perform env settings s _).2 = events at hm happ
    generalize (perform env settings s _).1 = s' at happ
    cases happ with
    | rejected _ _ => simp at hm
    | dispatched _ _ done hdone =>
      subst hdone
      rcases List.mem_cons.mp hm with hm | hm
      · cases hm
      · rcases executeGatewayOperation_events hm with ⟨_, -, h⟩ | h | h | h <;> cases h
  · rcases hsettling _ hm with h | h <;> cases h

theorem authorised_of_reserved (ho : OnRecord s) {a : Action} {dReserved dCommitted : ℤ}
    (hop' : op' ∈ (perform env settings s a).1.operations.rows)
    (hm : .posted op .reserved dReserved dCommitted ∈ (perform env settings s a).2)
    (hid : op.id = op'.id) : Authorised (perform env settings s a).1 op' := by
  have hstep := perform_step env settings s a
  rcases hstep.dispatch_cases with
    ⟨payload, headers, inputs, agent, mandate, result, rfl, hreq⟩ |
    ⟨operationId, approval, now, gateway, op₀, mandate, rfl, hfound, hstatus, hmandate, happ⟩ |
    hsettling
  · exact .inl ((evaluatedAs_of_request hop' hm hid).1 rfl)
  · have hgrows := (listed_perform env settings s (.approve operationId approval now gateway)).grows
    rcases outcome_cases s (humanApproveOperation env operationId approval gateway s) with
      h | ⟨c, hc, h⟩ <;> rw [perform, h] at hm hop' hstep hgrows ⊢
    · cases hm
    · obtain ⟨hself, hparked, hsigned⟩ := approval_history hc hm
      obtain ⟨op'', hop'', horder⟩ := hstep.operation_kept hself
      have hfind' : c.store.operations.find? op'.id = some op' := Table.find?_of_mem hop'
      rw [hid] at hop''
      obtain rfl : op'' = op' := Option.some.inj (hop''.symm.trans hfind')
      have hsubject := subjectOf_of_order horder
      exact .inr ⟨(ho.parked op (Table.mem_of_find? hself) hparked).kept hgrows hsubject,
        hsigned.kept (List.prefix_refl _) hsubject⟩
  · rcases hsettling _ hm with h | h <;> cases h

/-- **One call keeps the authorisations on record.** -/
theorem onRecord_perform (ho : OnRecord s) {a : Action} (hverify : VerifiesActed env settings s a) :
    OnRecord (perform env settings s a).1 := by
  have hgrows := (listed_perform env settings s a).grows
  refine ⟨fun op' hop' hparked => ?_, fun op' hop' hacted => ?_⟩
  · rcases (origin_step (perform_step env settings s a) hverify hop').2 hparked with
      ⟨op, hmem, hstatus, hsubject⟩ | ⟨op, _, _, hm, hid⟩
    · exact (ho.parked op hmem hstatus).kept hgrows hsubject
    · exact evaluated_of_parked hop' hm hid
  · rcases (origin_step (perform_step env settings s a) hverify hop').1 hacted with
      ⟨op, hmem, hstatus, hsubject⟩ | ⟨op, _, _, hm, hid⟩
    · exact (ho.acted op hmem hstatus).kept hgrows hsubject
    · exact authorised_of_reserved ho hop' hm hid

/-- What a call of the interactive control plane has to verify. -/
def CallVerifiesActed (env : Platform) (settings : Settings) (s : Store) : Call → Prop
  | .control a => VerifiesActed env settings s a
  | .chat _ _ _ _ => True

theorem onRecord_answer (ho : OnRecord s) {c : Call} (hverify : CallVerifiesActed env settings s c) :
    OnRecord (answer env settings s c).1 := by
  cases c with
  | control a => exact onRecord_perform ho hverify
  | chat agentId headers hex now =>
    rcases chat_cases env settings s agentId headers hex now with
      hsame | ⟨agent, mandates, -, -, -, hissued⟩
    · rw [hsame]
      exact ho
    · rw [hissued]
      exact ⟨ho.parked, ho.acted⟩

/-- Entries verify no payment. -/
theorem callVerifiesActed_of_leads {e : Entry} {c : Call} (h : e.Leads env settings s c)
    (s' : Store) : CallVerifiesActed env settings s' c := by
  cases e with
  | operations payload headers inputs =>
    obtain rfl : c = _ := h
    trivial
  | mcp request headers inputs =>
    obtain ⟨_, _, _, -, -, -, -, rfl⟩ := h
    trivial
  | chat agentId headers hex now turn =>
    rcases h with rfl | ⟨_, _, _, -, -, rfl⟩ <;> trivial

end Authorisations

/-- What an activity has to verify. -/
def ActivityVerifiesActed (env : Platform) (settings : Settings) (d : Database) : Activity → Prop
  | .enter _ => True
  | .control a => VerifiesActed env settings d.store a

/-- **No operation without an authorisation on record.**  In every state of a run of the system in
which payments are verified only for operations that have come past the decision, every operation
that is RESERVED, EXECUTING, SUCCEEDED or FAILED has a recorded evaluation with its agent and its
amount that allowed it, or one that asked for a review and a recorded approval of that amount. -/
theorem authorised_on_record (env : Platform) (settings : Settings) (host : Conversions)
    (d : Database) (activities : List Activity) (hrecord : OnRecord d.store)
    (hverify : (system env settings host).Along (ActivityVerifiesActed env settings) d activities) :
    (system env settings host).Throughout (fun d => OnRecord d.store) d activities := by
  refine Machine.throughout_of_inv (fun d act ho hv => ?_) hrecord hverify
  cases act with
  | enter e =>
    obtain ⟨calls, hall, hrun, -⟩ := @enter_reached env settings host d e
    show OnRecord (enter env settings host d e).1.store
    rw [← hrun]
    exact Machine.inv_run (M := interactivePlane env settings) (I := OnRecord)
      (P := CallVerifiesActed env settings) (fun s c ho hv => onRecord_answer ho hv) ho
      (Machine.along_of_forall fun c hc s => callVerifiesActed_of_leads (hall c hc) s)
  | control a => exact onRecord_perform ho hv

section Sample

open ControlPlane.Sample

/-- A request that is sent to review, its approval and the verified payment. -/
def reviewed : List Activity :=
  [.control requestA, .control (approve "operation_A" "order_A" 600 true), .control verifyA]

theorem authorised_on_record_reviewed :
    (system platform settings plainConversions).Throughout (fun d => OnRecord d.store)
      ⟨reviewStore, []⟩ reviewed := by
  refine authorised_on_record platform settings plainConversions ⟨reviewStore, []⟩ reviewed
    ⟨fun op hop => absurd hop List.not_mem_nil, fun op hop => absurd hop List.not_mem_nil⟩
    ⟨trivial, trivial, fun op tx h => ?_, trivial⟩
  have hall : (((system platform settings plainConversions).run ⟨reviewStore, []⟩
      (reviewed.take 2)).store.operations.rows.all fun op => acted op.status) = true := by
    decide +kernel
  exact List.all_eq_true.mp hall op (Table.mem_of_find? h.self)

end Sample

end MandatePlane.AuditHistory

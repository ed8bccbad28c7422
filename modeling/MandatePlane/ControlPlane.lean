import MandatePlane.HandlerPostings
import MandatePlane.MandateSteps

/-!
# Runs of the control plane

One action is one call of an endpoint, one webhook delivery or one sweep, each run
to completion.  A call that is refused changes nothing.  The control plane is the
machine of these actions; its log is what the committed handlers observed of
themselves.

Two facts hold of every step.  The log explains the ledger: entering it turns the
ledger before into the ledger after.  And, verifications of payments aside, every
entry of the log follows the rule for observations.
-/

namespace MandatePlane.ControlPlane

open DomainModel KeyedTable HoldLedger LabelledRun LedgerView HostEnvironment HandlerPostings
open OperationRoutes WebhookRoutes MandateRoutes ReconciliationWorker CallerAuth RazorpayClient
open MandateSteps

inductive Action where
  | request (payload : OperationCreate) (headers : CallerHeaders) (inputs : RequestInputs)
  | approve (operationId : String) (approval : HumanApprovalRequest) (now : ℤ)
      (gateway : GatewayAnswers)
  | verify (operationId : String) (payload : PaymentVerifyRequest)
  | webhook (delivery : WebhookDelivery)
  | sweep (inputs : SweepInputs)
  | create (payload : MandateCreate) (id : GeneratedId) (now : DateTime)
  | delegate (parentId : String) (payload : MandateDelegateRequest) (id : GeneratedId)
      (now : DateTime)
  | suspend (mandateId : String) (reason : Option String)
  | revoke (mandateId : String) (reason : Option String)
  | activate (mandateId : String)
  | agentStatus (agentId : String) (status : AgentStatus) (reason : Option String)

/-- What a call leaves: its commit, or nothing when it is refused. -/
def outcome {α : Type} (s : Store) : Except Refusal (Committed α) → Store × List Event
  | .ok c => (c.store, c.events)
  | .error _ => (s, [])

def perform (env : Platform) (settings : Settings) (s : Store) : Action → Store × List Event
  | .request payload headers inputs =>
    outcome s (requestFinancialOperation env settings payload headers inputs s)
  | .approve operationId approval _ gateway =>
    outcome s (humanApproveOperation env operationId approval gateway s)
  | .verify operationId payload => outcome s (verifyPayment env settings operationId payload s)
  | .webhook delivery => outcome s (handleRazorpayWebhook env settings delivery s)
  | .sweep inputs => outcome s (reconcileStuckReservations inputs s)
  | .create payload id now => outcome s (createMandate env payload id.text now s)
  | .delegate parentId payload id now =>
    outcome s (delegateChildMandate env parentId payload id.text now s)
  | .suspend mandateId reason => outcome s (suspendMandateCascade mandateId reason s)
  | .revoke mandateId reason => outcome s (revokeMandateCascade mandateId reason s)
  | .activate mandateId => outcome s (activateMandate mandateId s)
  | .agentStatus agentId status reason => outcome s (updateAgentStatus agentId status reason s)

/-- The control plane as a machine. -/
def controlPlane (env : Platform) (settings : Settings) : Machine Store Action Event where
  next s a := (perform env settings s a).1
  log s a := (perform env settings s a).2

/-- A call was refused and changed nothing, or it committed. -/
theorem outcome_cases {α : Type} (s : Store) (x : Except Refusal (Committed α)) :
    outcome s x = (s, []) ∨ ∃ c, x = .ok c ∧ outcome s x = (c.store, c.events) := by
  cases x with
  | error refusal => exact .inl rfl
  | ok c => exact .inr ⟨c, rfl, rfl⟩

/-! ### What a step can do -/

/-- A verification that was accepted. -/
structure Verified (env : Platform) (settings : Settings) (s : Store) (operationId : String)
    (payload : PaymentVerifyRequest) (op : FinancialOperation) (tx : Option Transaction) : Prop where
  self : s.operations.find? op.id = some op
  found : s.operationByOperationId operationId = .ok (some op)
  signed : verifyPaymentSignature env settings payload.razorpayOrderId payload.razorpayPaymentId
    payload.razorpaySignature = .ok true
  transaction : s.transactionsOf op.id = tx.toList

/-- A delegation that was accepted. -/
structure Delegated (env : Platform) (s : Store) (parentId : String)
    (payload : MandateDelegateRequest) (id : String) (now : DateTime) (parent : Mandate)
    (currency : String) (mandates : Table Mandate) : Prop where
  found : s.mandates.find? parentId = some parent
  active : parent.status = .active
  target : ∃ agent, s.agents.find? payload.targetAgentId = some agent
  valid : validateDelegationInvariants env parent payload = .ok currency
  inserted : (s.mandates.modify parentId (allocate payload.aggregateSpendLimit)).insert
    (childMandate payload parent currency id now) = some mandates

/-- **One step of the control plane**, action by action: what it observed and what it left. -/
inductive Step (env : Platform) (settings : Settings) (s : Store) :
    Action → List Event → Store → Prop
  | refused (a : Action) : Step env settings s a [] s
  | requested {payload : OperationCreate} {headers : CallerHeaders} {inputs : RequestInputs}
      {events : List Event} {s' : Store} {agent : Agent} {mandate : Mandate}
      {result : PolicyEvaluationResult}
      (h : Requested env settings payload headers inputs s events s' agent mandate result) :
      Step env settings s (.request payload headers inputs) events s'
  | approved {operationId : String} {approval : HumanApprovalRequest} {now : ℤ}
      {gateway : GatewayAnswers} {events : List Event} {s' : Store} {op : FinancialOperation}
      {mandate : Mandate} (hfound : s.operationByOperationId operationId = .ok (some op))
      (hstatus : op.status = .requiresApproval)
      (hmandate : s.mandates.find? op.mandateId = some mandate)
      (hexplained : Explained s events s') (horders : orders s' = orders s)
      (h : Approved env approval gateway op mandate s events s') :
      Step env settings s (.approve operationId approval now gateway) events s'
  | verified {operationId : String} {payload : PaymentVerifyRequest} {op : FinancialOperation}
      {tx : Option Transaction} {s' : Store} (h : Verified env settings s operationId payload op tx)
      (hbooks : ledger s' =
        (ledger s).enter (.post op.id op.mandateId .succeeded (-op.amount) op.amount))
      (hgrants : grants s' = grants s) (horders : orders s' = orders s)
      (hagents : s'.agents = s.agents) (hlinks : links s' = links s) :
      Step env settings s (.verify operationId payload)
        [.posted op .succeeded (-op.amount) op.amount] s'
  | delivered {delivery : WebhookDelivery} {events : List Event} {s' : Store}
      (h : Delivered env settings delivery s events s') :
      Step env settings s (.webhook delivery) events s'
  | swept {inputs : SweepInputs} {events : List Event} {s' : Store}
      (hexplained : Explained s events s') (horders : orders s' = orders s)
      (hlinks : links s' = links s)
      (hevents : ∀ e ∈ events, ∃ op ∈ stuckOperations inputs s, SweptEvent op e) :
      Step env settings s (.sweep inputs) events s'
  | created {payload : MandateCreate} {id : GeneratedId} {now : DateTime} {agent : Agent}
      {mandates : Table Mandate}
      (h : s.mandates.insert (rootMandate env payload agent id.text now) = some mandates) :
      Step env settings s (.create payload id now)
        [.issued (rootMandate env payload agent id.text now)]
        ({ s with mandates }.audit
          (createdAudit payload (rootMandate env payload agent id.text now)))
  | delegated {parentId : String} {payload : MandateDelegateRequest} {id : GeneratedId}
      {now : DateTime} {parent : Mandate} {currency : String} {mandates : Table Mandate}
      (h : Delegated env s parentId payload id.text now parent currency mandates) :
      Step env settings s (.delegate parentId payload id now)
        [.issued (childMandate payload parent currency id.text now)]
        ({ s with mandates }.audit
          (delegatedAudit parent (childMandate payload parent currency id.text now)))
  | suspended {mandateId : String} {reason : Option String} {s' : Store} {visited : List String}
      (h : Cascaded .suspended mandateId s s' visited) :
      Step env settings s (.suspend mandateId reason) [] s'
  | revoked {mandateId : String} {reason : Option String} {s' : Store} {visited : List String}
      (h : Cascaded .revoked mandateId s s' visited) :
      Step env settings s (.revoke mandateId reason) [] s'
  | activated {mandateId : String} {mandate : Mandate}
      (hfind : s.mandates.find? mandateId = some mandate)
      (hparent : inactiveParent s.mandates mandate = false) :
      Step env settings s (.activate mandateId) [] (s.updateMandate mandateId reactivated)
  | agentChanged {agentId : String} {status : AgentStatus} {reason : Option String}
      (agents : Table Agent) (audits : List AuditEvent) :
      Step env settings s (.agentStatus agentId status reason) []
        { s with agents, auditEvents := audits }

/-- **Every action takes one of these steps.** -/
theorem perform_step (env : Platform) (settings : Settings) (s : Store) (a : Action) :
    Step env settings s a (perform env settings s a).2 (perform env settings s a).1 := by
  cases a with
  | request payload headers inputs =>
    rcases outcome_cases s (requestFinancialOperation env settings payload headers inputs s) with
      h | ⟨c, hc, h⟩ <;> rw [perform, h]
    · exact .refused _
    · rcases requestFinancialOperation_spec hc with ⟨hs, he⟩ | ⟨_, _, _, hreq⟩
      · dsimp only
        rw [hs, he]
        exact .refused _
      · exact .requested hreq
  | approve operationId approval now gateway =>
    rcases outcome_cases s (humanApproveOperation env operationId approval gateway s) with
      h | ⟨c, hc, h⟩ <;> rw [perform, h]
    · exact .refused _
    · obtain ⟨op, mandate, -, hfound, hstatus, hmandate, hexp, hord, happ⟩ :=
        humanApproveOperation_spec hc
      exact .approved hfound hstatus hmandate hexp hord happ
  | verify operationId payload =>
    rcases outcome_cases s (verifyPayment env settings operationId payload s) with
      h | ⟨c, hc, h⟩ <;> rw [perform, h]
    · exact .refused _
    · obtain ⟨op, tx, hself, hfound, hsigned, htx, hevents, hbooks, hgrants, horders, hagents, hlinks⟩ :=
        verifyPayment_spec hc
      dsimp only
      rw [hevents]
      exact .verified ⟨hself, hfound, hsigned, htx⟩ hbooks hgrants horders hagents hlinks
  | webhook delivery =>
    rcases outcome_cases s (handleRazorpayWebhook env settings delivery s) with
      h | ⟨c, hc, h⟩ <;> rw [perform, h]
    · exact .refused _
    · exact .delivered (handleRazorpayWebhook_spec hc)
  | sweep inputs =>
    rcases outcome_cases s (reconcileStuckReservations inputs s) with
      h | ⟨c, hc, h⟩ <;> rw [perform, h]
    · exact .refused _
    · obtain ⟨hexp, hord, hlinks, hevents⟩ := reconcileStuckReservations_spec hc
      exact .swept hexp hord hlinks hevents
  | create payload id now =>
    rcases outcome_cases s (createMandate env payload id.text now s) with
      h | ⟨c, hc, h⟩ <;> rw [perform, h]
    · exact .refused _
    · obtain ⟨agent, mandates, hinsert, hs, he⟩ := createMandate_spec hc
      dsimp only
      rw [hs, he]
      exact .created hinsert
  | delegate parentId payload id now =>
    rcases outcome_cases s (delegateChildMandate env parentId payload id.text now s) with
      h | ⟨c, hc, h⟩ <;> rw [perform, h]
    · exact .refused _
    · obtain ⟨parent, currency, mandates, hfound, hactive, htarget, hvalid, hinsert, hs, he⟩ :=
        delegateChildMandate_spec hc
      dsimp only
      rw [hs, he]
      exact .delegated ⟨hfound, hactive, htarget, hvalid, hinsert⟩
  | suspend mandateId reason =>
    rcases outcome_cases s (suspendMandateCascade mandateId reason s) with
      h | ⟨c, hc, h⟩ <;> rw [perform, h]
    · exact .refused _
    · obtain ⟨he, visited, hcascaded⟩ := changeStatusCascade_eq_ok hc
      dsimp only
      rw [he]
      exact .suspended hcascaded
  | revoke mandateId reason =>
    rcases outcome_cases s (revokeMandateCascade mandateId reason s) with
      h | ⟨c, hc, h⟩ <;> rw [perform, h]
    · exact .refused _
    · obtain ⟨he, visited, hcascaded⟩ := changeStatusCascade_eq_ok hc
      dsimp only
      rw [he]
      exact .revoked hcascaded
  | activate mandateId =>
    rcases outcome_cases s (activateMandate mandateId s) with h | ⟨c, hc, h⟩ <;> rw [perform, h]
    · exact .refused _
    · obtain ⟨mandate, hmandate, hc⟩ := bind_eq_ok.mp hc
      obtain ⟨_, hparent, hc⟩ := bind_eq_ok.mp hc
      rw [orRefuse_eq_ok] at hmandate
      rw [ensure_eq_ok] at hparent
      cases hc
      exact .activated hmandate (by simpa using hparent)
  | agentStatus agentId status reason =>
    rcases outcome_cases s (updateAgentStatus agentId status reason s) with
      h | ⟨c, hc, h⟩ <;> rw [perform, h]
    · exact .refused _
    · obtain ⟨agent, -, hc⟩ := bind_eq_ok.mp hc
      cases hc
      exact .agentChanged _ _

/-! ### The log explains the ledger -/

section Books

variable {env : Platform} {settings : Settings} {s s' : Store} {a : Action} {events : List Event}

/-- A delegation opens one account; the parent's allocation is no total of its account. -/
theorem Delegated.account {parentId : String} {payload : MandateDelegateRequest} {id : String}
    {now : DateTime} {parent : Mandate} {currency : String} {mandates : Table Mandate}
    (h : Delegated env s parentId payload id now parent currency mandates) :
    ledger { s with mandates } = (ledger s).enter
        (.account (mandateAccount (childMandate payload parent currency id now))) ∧
      (ledger s).accounts.find? id = none := by
  have hsame : ledger (s.updateMandate parentId (allocate payload.aggregateSpendLimit)) = ledger s :=
    ledger_updateMandate_of_eq fun _ => rfl
  have hnew := @ledger_insertMandate
    (s.updateMandate parentId (allocate payload.aggregateSpendLimit)) _ _ h.inserted
  rw [hsame] at hnew
  exact hnew

/-- **The log explains the ledger.** -/
theorem Step.books (h : Step env settings s a events s') :
    ledger s' = eventBook.run (ledger s) events := by
  cases h with
  | refused => rfl
  | requested h => exact h.explained.books
  | approved _ _ _ hexp => exact hexp.books
  | verified _ hbooks => exact hbooks
  | delivered h => exact h.explained.1.books
  | swept hexp => exact hexp.books
  | created h =>
    rw [ledger_audit, (ledger_insertMandate h).1]
    rfl
  | delegated h =>
    rw [ledger_audit, h.account.1]
    rfl
  | suspended h => exact h.only.books
  | revoked h => exact h.only.books
  | activated _ _ => exact (reactivated_statusOnly _ _).books
  | agentChanged => rfl

/-- A verification that is accepted finds its operation in flight. -/
def VerifiesInFlight (env : Platform) (settings : Settings) (s : Store) : Action → Prop
  | .verify operationId payload => ∀ op tx, Verified env settings s operationId payload op tx →
      op.status.inFlight = true
  | _ => True

/-- **The log follows the rule for observations**, verifications of settled operations aside. -/
theorem Step.ruled (h : Step env settings s a events s')
    (hverify : VerifiesInFlight env settings s a) :
    eventBook.Along EventRule (ledger s) events := by
  cases h with
  | refused => trivial
  | requested h => exact h.explained.ruled
  | approved _ _ _ hexp => exact hexp.ruled
  | verified h =>
    refine ⟨⟨?_, .commit (hverify _ _ h)⟩, trivial⟩
    rw [holds_find?, h.self]
    rfl
  | delivered h => exact h.explained.1.ruled
  | swept hexp => exact hexp.ruled
  | @created payload id now agent mandates h =>
    exact ⟨⟨rfl, rfl, payload.limit_pos, (ledger_insertMandate h).2⟩, trivial⟩
  | @delegated parentId payload id now parent currency mandates h =>
    exact ⟨⟨rfl, rfl, payload.limit_pos, h.account.2⟩, trivial⟩
  | suspended _ => trivial
  | revoked _ => trivial
  | activated _ _ => trivial
  | agentChanged => trivial

/-- Every log follows the rule for observations, or is the one commit of a verification. -/
theorem Step.ruled_or_verified (h : Step env settings s a events s') :
    eventBook.Along EventRule (ledger s) events ∨
      ∃ op, s.operations.find? op.id = some op ∧
        events = [.posted op .succeeded (-op.amount) op.amount] := by
  cases a with
  | verify operationId payload =>
    cases h with
    | refused => exact .inl trivial
    | verified h => exact .inr ⟨_, h.self, rfl⟩
  | request _ _ _ => exact .inl (h.ruled trivial)
  | approve _ _ _ _ => exact .inl (h.ruled trivial)
  | webhook _ => exact .inl (h.ruled trivial)
  | sweep _ => exact .inl (h.ruled trivial)
  | create _ _ _ => exact .inl (h.ruled trivial)
  | delegate _ _ _ _ => exact .inl (h.ruled trivial)
  | suspend _ _ => exact .inl (h.ruled trivial)
  | revoke _ _ => exact .inl (h.ruled trivial)
  | activate _ => exact .inl (h.ruled trivial)
  | agentStatus _ _ _ => exact .inl (h.ruled trivial)

/-- An operation is only opened with a positive amount. -/
theorem Step.opened_pos (h : Step env settings s a events s') {op : FinancialOperation}
    (hm : .opened op ∈ events) : 0 < op.amount := by
  rcases h.ruled_or_verified with hruled | ⟨op', -, rfl⟩
  · obtain ⟨L, hrule⟩ := Machine.exists_of_along hruled hm
    exact hrule.2.1
  · cases List.mem_singleton.mp hm

end Books

/-! ### Where a step can dispatch -/

section Dispatch

variable {env : Platform} {settings : Settings} {s s' : Store} {a : Action} {events : List Event}

/-- An observation that neither requests nor dispatches. -/
def Settling : Event → Prop
  | .posted _ target _ _ => target = .succeeded ∨ target = .failed
  | .issued _ => True
  | .credited _ _ => True
  | .opened _ => False
  | .gatewayCall _ _ => False

theorem settling_delivered {delivery : WebhookDelivery}
    (h : Delivered env settings delivery s events s') : ∀ e ∈ events, Settling e := by
  cases h with
  | recorded => exact fun e he => absurd he List.not_mem_nil
  | processed _ hdone _ =>
    cases hdone with
    | ignored => exact fun e he => absurd he List.not_mem_nil
    | captured _ _ _ _ hflight _ =>
      obtain ⟨dReserved, dCommitted, hwrite⟩ := captureBudget_write hflight
      intro e he
      rw [List.mem_singleton.mp he, hwrite.event]
      exact .inl rfl
    | failed _ _ _ _ hflight _ =>
      obtain ⟨dReserved, dCommitted, hwrite⟩ := failureBudget_write hflight
      intro e he
      rw [List.mem_singleton.mp he, hwrite.event]
      exact .inr rfl
    | refunded _ _ _ _ _ =>
      intro e he
      rw [List.mem_singleton.mp he]
      trivial

/-- **Requests and approvals dispatch, nothing else does.** -/
theorem Step.dispatch_cases (h : Step env settings s a events s') :
    (∃ payload headers inputs agent mandate result, a = .request payload headers inputs ∧
        Requested env settings payload headers inputs s events s' agent mandate result) ∨
      (∃ operationId approval now gateway op mandate,
        a = .approve operationId approval now gateway ∧
        s.operationByOperationId operationId = .ok (some op) ∧ op.status = .requiresApproval ∧
        s.mandates.find? op.mandateId = some mandate ∧
        Approved env approval gateway op mandate s events s') ∨
      ∀ e ∈ events, Settling e := by
  cases h with
  | refused => exact .inr (.inr fun e he => absurd he List.not_mem_nil)
  | requested h => exact .inl ⟨_, _, _, _, _, _, rfl, h⟩
  | approved hfound hstatus hmandate _ _ h =>
    exact .inr (.inl ⟨_, _, _, _, _, _, rfl, hfound, hstatus, hmandate, h⟩)
  | verified _ _ _ _ _ _ =>
    refine .inr (.inr fun e he => ?_)
    rw [List.mem_singleton.mp he]
    exact .inl rfl
  | delivered h => exact .inr (.inr (settling_delivered h))
  | swept _ _ _ hevents =>
    refine .inr (.inr fun e he => ?_)
    obtain ⟨op, -, rfl | rfl⟩ := hevents e he
    · exact .inr rfl
    · exact .inl rfl
  | created _ =>
    refine .inr (.inr fun e he => ?_)
    rw [List.mem_singleton.mp he]
    trivial
  | delegated _ =>
    refine .inr (.inr fun e he => ?_)
    rw [List.mem_singleton.mp he]
    trivial
  | suspended _ => exact .inr (.inr fun e he => absurd he List.not_mem_nil)
  | revoked _ => exact .inr (.inr fun e he => absurd he List.not_mem_nil)
  | activated _ _ => exact .inr (.inr fun e he => absurd he List.not_mem_nil)
  | agentChanged => exact .inr (.inr fun e he => absurd he List.not_mem_nil)

end Dispatch

/-! ### When a request or an approval reserves -/

section Reservations

open PolicyEngine

variable {env : Platform} {settings : Settings} {s s' : Store} {events : List Event}

/-- Everything the pipeline checks before it reserves the amount. -/
structure Permitted (env : Platform) (settings : Settings) (s : Store) (payload : OperationCreate)
    (headers : CallerHeaders) (inputs : RequestInputs) (agent : Agent) (mandate : Mandate) :
    Prop where
  authenticated : authenticateRequest env settings payload headers s.agents = .ok ()
  fresh : s.operationByIdempotencyKey payload.idempotencyKey = .ok none
  mandateFound : s.mandates.find? payload.mandateId = some mandate
  agentFound : s.agents.find? payload.agentId = some agent
  inserted : ∃ s', s.insertOperation (newOperation env payload inputs) = some s'
  allowed : ∃ result, evaluate env (requestEvaluation inputs) agent mandate
    (newOperation env payload inputs) = .ok result ∧ result.decision = .allow
  room : mandate.currentAggregateSpend + mandate.reservedSpend + payload.amount ≤
    mandate.aggregateSpendLimit

/-- **A permitted request reserves.** -/
theorem reserves_of_permitted {payload : OperationCreate} {headers : CallerHeaders}
    {inputs : RequestInputs} {agent : Agent} {mandate : Mandate}
    (h : Permitted env settings s payload headers inputs agent mandate) :
    ∃ op, .posted op .reserved op.amount 0 ∈
        (controlPlane env settings).log s (.request payload headers inputs) ∧
      op.status = .initiated ∧ op.agentId = payload.agentId ∧ op.mandateId = payload.mandateId := by
  obtain ⟨s₁, hinsert⟩ := h.inserted
  obtain ⟨result, hresult, hallow⟩ := h.allowed
  obtain ⟨-, -, -, -, -, -, hms⟩ := ledger_insertOperation hinsert
  have hkey : mandate.id = payload.mandateId := Table.key_of_find? h.mandateFound
  have hreserve : ∃ s₂, reserveBudget (recordEvaluation payload (newOperation env payload inputs)
      result s₁) mandate.id payload.amount = some s₂ := by
    have hmandates : (recordEvaluation payload (newOperation env payload inputs) result
      s₁).mandates = s.mandates := hms
    rw [reserveBudget, hmandates, hkey, h.mandateFound]
    simp only [if_pos h.room]
    exact ⟨_, rfl⟩
  obtain ⟨s₂, hreserve⟩ := hreserve
  refine ⟨withDetails result (newOperation env payload inputs), ?_, rfl, rfl, rfl⟩
  show _ ∈ (outcome s (requestFinancialOperation env settings payload headers inputs s)).2
  have hev : Evaluated env settings payload headers inputs s agent mandate s₁ result :=
    ⟨h.authenticated, h.fresh, h.agentFound, h.mandateFound, hinsert, hresult⟩
  rw [hev.returns]
  simp only [actOnDecision, hallow, hreserve, outcome]
  exact List.mem_cons_of_mem _ List.mem_cons_self

/-- What the pipeline had checked when a request reserved or called. -/
theorem permitted_of_dispatch {payload : OperationCreate} {headers : CallerHeaders}
    {inputs : RequestInputs} {op : FinancialOperation}
    (h : Step env settings s (.request payload headers inputs) events s')
    (hm : (∃ dReserved dCommitted, .posted op .reserved dReserved dCommitted ∈ events) ∨
      ∃ call, .gatewayCall op call ∈ events) :
    op.agentId = payload.agentId ∧ op.mandateId = payload.mandateId ∧
      ∃ agent mandate, Permitted env settings s payload headers inputs agent mandate := by
  cases h with
  | refused => simp at hm
  | @requested _ _ _ _ _ agent mandate result hreq =>
    cases hreq.decided with
    | rejected _ _ _ => simp at hm
    | parked _ _ _ => simp at hm
    | dispatched hdecision hroom done hdone =>
      have hpermitted : Permitted env settings s payload headers inputs agent mandate :=
        ⟨hreq.authenticated, hreq.fresh, hreq.mandateFound, hreq.agentFound, hreq.inserted,
          ⟨result, hreq.evaluated, hdecision⟩, hroom⟩
      refine and_assoc.mp ⟨?_, agent, mandate, hpermitted⟩
      subst hdone
      rcases hm with ⟨dReserved, dCommitted, hm⟩ | ⟨call, hm⟩
      · simp only [List.mem_cons, reduceCtorEq, Event.posted.injEq, false_or] at hm
        rcases hm with ⟨rfl, -⟩ | hm
        · exact ⟨rfl, rfl⟩
        · rcases executeGatewayOperation_events hm with ⟨_, -, h⟩ | h | h | h <;> simp at h
      · simp only [List.mem_cons, reduceCtorEq, false_or] at hm
        rcases executeGatewayOperation_events hm with ⟨_, -, h⟩ | h | h | h
        · cases h
          exact ⟨rfl, rfl⟩
        · cases h
        · cases h
        · cases h

/-- Everything an approval checks before it reserves the amount. -/
structure Granted (s : Store) (operationId : String) (approval : HumanApprovalRequest)
    (op : FinancialOperation) (mandate : Mandate) : Prop where
  found : s.operationByOperationId operationId = .ok (some op)
  parked : op.status = .requiresApproval
  approved : approval.approved = true
  mandateFound : s.mandates.find? op.mandateId = some mandate
  room : mandate.currentAggregateSpend + mandate.reservedSpend + op.amount ≤
    mandate.aggregateSpendLimit

end Reservations

/-! ### What no step changes -/

section Frame

variable {env : Platform} {settings : Settings} {s s' : Store} {a : Action} {events : List Event}

/-- **Only issuing and delegating touch an allotment.** -/
theorem Step.allotments_cases (h : Step env settings s a events s') :
    allotments s' = allotments s ∨
      (∃ payload id now agent, a = .create payload id now ∧
        s.mandates.insert (rootMandate env payload agent id.text now) = some s'.mandates) ∨
      ∃ parentId payload id now parent currency, a = .delegate parentId payload id now ∧
        Delegated env s parentId payload id.text now parent currency s'.mandates := by
  cases h with
  | refused => exact .inl rfl
  | requested h => exact .inl (allotments_of_grants h.explained.grants)
  | approved _ _ _ hexp => exact .inl (allotments_of_grants hexp.grants)
  | verified _ _ hgrants => exact .inl (allotments_of_grants hgrants)
  | delivered h => exact .inl (allotments_of_grants h.explained.1.grants)
  | swept hexp => exact .inl (allotments_of_grants hexp.grants)
  | created h => exact .inr (.inl ⟨_, _, _, _, rfl, h⟩)
  | delegated h => exact .inr (.inr ⟨_, _, _, _, _, _, rfl, h⟩)
  | suspended h => exact .inl h.only.allotments
  | revoked h => exact .inl h.only.allotments
  | activated _ _ => exact .inl (reactivated_statusOnly _ _).allotments
  | agentChanged => exact .inl rfl

/-- **The terms of a mandate never change.** -/
theorem Step.terms_kept (h : Step env settings s a events s') {id : String} {m : Mandate}
    (hm : (terms s).find? id = some m) : (terms s').find? id = some m := by
  have hinsert {mandates : Table Mandate} {new : Mandate}
      (hi : mandates.insert new = some s'.mandates)
      (hterms : terms { s with mandates } = terms s) : (terms s').find? id = some m := by
    have hm' : (terms { s with mandates }).find? id = some m := by rw [hterms, hm]
    exact Table.find?_insert_of_some (Table.mapRows_insert key_termsOf hi) hm'
  rcases h.allotments_cases with he | ⟨_, _, _, _, -, hi⟩ |
    ⟨parentId, payload, _, _, _, _, -, hdelegated⟩
  · rw [terms_of_allotments he]
    exact hm
  · exact hinsert hi rfl
  · have hparent : terms (s.updateMandate parentId (allocate payload.aggregateSpendLimit)) =
        terms s := terms_columns s fun _ => rfl
    exact hinsert hdelegated.inserted hparent

/-- The gateway's answers to an action that can dispatch. -/
def answers : Action → Option GatewayAnswers
  | .request _ _ inputs => some inputs.gateway
  | .approve _ _ _ gateway => some gateway
  | _ => none

/-- **A transaction's order is never exchanged.**  At most one link is added, to an order the
gateway has just created. -/
theorem Step.linked (h : Step env settings s a events s') :
    links s' = links s ∨ ∃ gateway, answers a = some gateway ∧ Linked gateway s s' := by
  have hsame {s₁ : Store} (h : s₁.transactions = s.transactions) : links s₁ = links s :=
    congrArg (List.map linkOf) h
  cases h with
  | refused => exact .inl rfl
  | requested h =>
    cases h.decided with
    | rejected _ _ ht => exact .inl (hsame ht)
    | parked _ _ ht => exact .inl (hsame ht)
    | dispatched _ _ done hdone hbefore =>
      subst hdone
      refine .inr ⟨_, rfl, ?_⟩
      unfold Linked
      rw [← hsame hbefore]
      exact executeGatewayOperation_linked _ _ _ _ _ _
  | approved _ _ _ _ _ h =>
    cases h with
    | rejected _ ht => exact .inl (hsame ht)
    | dispatched _ _ done hdone hbefore =>
      subst hdone
      refine .inr ⟨_, rfl, ?_⟩
      unfold Linked
      rw [← hsame hbefore]
      exact executeGatewayOperation_linked _ _ _ _ _ _
  | verified _ _ _ _ _ hlinks => exact .inl hlinks
  | delivered h => exact .inl h.links
  | swept _ _ hlinks _ => exact .inl hlinks
  | created _ => exact .inl rfl
  | delegated _ => exact .inl rfl
  | suspended h => exact .inl (hsame h.only.transactions)
  | revoked h => exact .inl (hsame h.only.transactions)
  | activated _ _ => exact .inl rfl
  | agentChanged => exact .inl rfl

/-- Only a request adds an order, and nothing changes one. -/
theorem Step.orders_cases (h : Step env settings s a events s') :
    orders s' = orders s ∨ ∃ payload headers inputs agent mandate result,
      a = .request payload headers inputs ∧
        Requested env settings payload headers inputs s events s' agent mandate result := by
  have hrows {s₁ : Store} (he : s₁.operations = s.operations) : orders s₁ = orders s := by
    unfold orders
    rw [he]
  cases h with
  | refused => exact .inl rfl
  | requested h => exact .inr ⟨_, _, _, _, _, _, rfl, h⟩
  | approved _ _ _ _ hord => exact .inl hord
  | verified _ _ _ hord => exact .inl hord
  | delivered h => exact .inl h.explained.2
  | swept _ hord => exact .inl hord
  | created _ => exact .inl rfl
  | delegated _ => exact .inl rfl
  | suspended h => exact .inl (hrows h.only.operations)
  | revoked h => exact .inl (hrows h.only.operations)
  | activated _ _ => exact .inl rfl
  | agentChanged => exact .inl rfl

/-- **An operation is never requested anew.** -/
theorem Step.orders_kept (h : Step env settings s a events s') {id : String}
    {op : FinancialOperation} (hop : (orders s).find? id = some op) :
    (orders s').find? id = some op := by
  rcases h.orders_cases with he | ⟨_, _, _, _, _, _, -, hreq⟩
  · rw [he]
    exact hop
  · exact Table.find?_insert_of_some hreq.ordered hop

/-- A stored operation stays, as it was requested. -/
theorem Step.operation_kept (h : Step env settings s a events s') {id : String}
    {op : FinancialOperation} (hop : s.operations.find? id = some op) :
    ∃ op', s'.operations.find? id = some op' ∧ orderOf op' = orderOf op := by
  have horder : (orders s).find? id = some (orderOf op) := by rw [orders_find?, hop]; rfl
  have hkept := h.orders_kept horder
  rw [orders_find?] at hkept
  exact Option.map_eq_some_iff.mp hkept

/-- A settled or rejected operation keeps its status and is posted nowhere, unless a payment is
verified for it. -/
theorem Step.terminal_kept (h : Step env settings s a events s') {id : String}
    {op : FinancialOperation} (hop : s.operations.find? id = some op)
    (ht : StateMachine.Terminal op.status)
    (hverify : ∀ operationId payload op₁ tx, a = .verify operationId payload →
      Verified env settings s operationId payload op₁ tx → op₁.id ≠ id) :
    (∃ op', s'.operations.find? id = some op' ∧ op'.status = op.status) ∧
      ∀ op₁ target dReserved dCommitted, .posted op₁ target dReserved dCommitted ∈ events →
        op₁.id ≠ id := by
  have hhold : (ledger s).holds.find? id = some (operationHold op) := by
    rw [holds_find?, hop]
    rfl
  have hkept : (ledger s').holds.find? id = some (operationHold op) ∧
      ∀ op₁ target dReserved dCommitted, .posted op₁ target dReserved dCommitted ∈ events →
        op₁.id ≠ id := by
    rw [h.books]
    by_cases hv : VerifiesInFlight env settings s a
    · exact terminal_kept_ruled (h.ruled hv) hhold ht
    · cases h with
      | @verified operationId payload op₁ tx _ h =>
        have hne : op₁.id ≠ id := hverify _ _ _ _ rfl h
        refine ⟨?_, fun op₂ _ _ _ hm => ?_⟩
        · refine (holds_enter_post _ op₁.id id _ _ _ _).trans ?_
          rw [if_neg hne.symm]
          exact hhold
        · cases List.mem_singleton.mp hm
          exact hne
      | refused => exact ⟨hhold, fun _ _ _ _ hm => absurd hm List.not_mem_nil⟩
      | requested _ => exact absurd trivial hv
      | approved _ _ _ _ _ _ => exact absurd trivial hv
      | delivered _ => exact absurd trivial hv
      | swept _ _ _ _ => exact absurd trivial hv
      | created _ => exact absurd trivial hv
      | delegated _ => exact absurd trivial hv
      | suspended _ => exact absurd trivial hv
      | revoked _ => exact absurd trivial hv
      | activated _ _ => exact absurd trivial hv
      | agentChanged => exact absurd trivial hv
  obtain ⟨hkept, hposted⟩ := hkept
  rw [holds_find?] at hkept
  obtain ⟨op', hop', hsame⟩ := Option.map_eq_some_iff.mp hkept
  exact ⟨⟨op', hop', congrArg HoldLedger.Hold.phase hsame⟩, hposted⟩

/-- Where the status of an operation comes from: from before, or from an observation of the step. -/
theorem Step.status_origin (h : Step env settings s a events s') {id : String}
    {op' : FinancialOperation} (hop : s'.operations.find? id = some op') :
    (∃ op, s.operations.find? id = some op ∧ op.status = op'.status ∧
        orderOf op' = orderOf op) ∨
      (∃ op dReserved dCommitted, .posted op op'.status dReserved dCommitted ∈ events ∧
        op.id = id) ∨
      ∃ op, .opened op ∈ events ∧ op.id = id ∧ op.status = op'.status := by
  have hhold : (book.run (ledger s) (events.map entry)).holds.find? id =
      some (operationHold op') := by
    rw [← eventBook_run, ← h.books, holds_find?, hop]
    rfl
  rcases phase_origin hhold with ⟨hold, hfind, hphase⟩ | ⟨acc, dReserved, dCommitted, hm⟩ |
    ⟨hold, hm, hid, hphase⟩
  · rw [holds_find?] at hfind
    obtain ⟨op, hop₀, rfl⟩ := Option.map_eq_some_iff.mp hfind
    obtain ⟨op₁, hop₁, horder⟩ := h.operation_kept hop₀
    rw [hop] at hop₁
    cases hop₁
    exact .inl ⟨op, hop₀, hphase, horder⟩
  · obtain ⟨e, he, heq⟩ := List.mem_map.mp hm
    cases e with
    | posted op target dReserved' dCommitted' =>
      simp only [entry, Entry.post.injEq] at heq
      obtain ⟨hid, -, htarget, rfl, rfl⟩ := heq
      exact .inr (.inl ⟨op, _, _, htarget ▸ he, hid⟩)
    | issued _ => cases heq
    | opened _ => cases heq
    | credited _ _ => cases heq
    | gatewayCall _ _ => cases heq
  · obtain ⟨e, he, heq⟩ := List.mem_map.mp hm
    cases e with
    | opened op =>
      cases heq
      exact .inr (.inr ⟨op, he, hid, hphase⟩)
    | issued _ => cases heq
    | posted _ _ _ _ => cases heq
    | credited _ _ => cases heq
    | gatewayCall _ _ => cases heq

end Frame

/-! ### A small world

One agent, one mandate, two payments and the events the gateway sends about them, with the digests
the two secrets give. -/

namespace Sample

open JsonValue PolicyEngine

def settings : Settings where
  environment := "development"
  razorpayKeySecret := "rzp_key_secret"
  razorpayWebhookSecret := "rzp_webhook_secret"

def capturedA : String :=
  "\x7b\"event_id\":\"evt_1\",\"event\":\"payment.captured\",\"payload\":\x7b\"payment\":" ++
    "\x7b\"entity\":\x7b\"order_id\":\"order_A\",\"id\":\"pay_A\"\x7d\x7d\x7d\x7d"

def capturedB : String :=
  "\x7b\"event_id\":\"evt_2\",\"event\":\"payment.captured\",\"payload\":\x7b\"payment\":" ++
    "\x7b\"entity\":\x7b\"order_id\":\"order_B\",\"id\":\"pay_B\"\x7d\x7d\x7d\x7d"

def refundA : String :=
  "\x7b\"event\":\"refund.processed\",\"payload\":\x7b\"refund\":" ++
    "\x7b\"entity\":\x7b\"payment_id\":\"pay_A\",\"amount\":100\x7d\x7d\x7d"

def capturedEvent (eventId orderId paymentId : String) : Json :=
  .obj [("event_id", .str eventId), ("event", .str "payment.captured"),
    ("payload", .obj [("payment", .obj [("entity",
      .obj [("order_id", .str orderId), ("id", .str paymentId)])])])]

def refundEvent : Json :=
  .obj [("event", .str "refund.processed"),
    ("payload", .obj [("refund", .obj [("entity",
      .obj [("payment_id", .str "pay_A"), ("amount", .int 100)])])])]

def signatureA : String := "04cebbc1a9d2c93317eb60a8c5879ea54ae2175f727009dfc1a9884d088823e2"

def signatureB : String := "2f18f0c19c5476854efc671753e8d2c9907ac61cb9f6210deaa8a109fa491935"

def digests : List ((String × String) × String) :=
  [((settings.razorpayKeySecret, "order_A|pay_A"), signatureA),
    ((settings.razorpayKeySecret, "order_B|pay_B"), signatureB),
    ((settings.razorpayWebhookSecret, capturedA),
      "e835fbb6bdceda9f8bfaf0650d1b9bb4f1a3cef6dd7bb4077006bef4d1cc0a0e"),
    ((settings.razorpayWebhookSecret, capturedB),
      "e9e51a7573bfbb8629014d1e01e5a731829c537d7ad01071fecc16cc82f45dbc"),
    ((settings.razorpayWebhookSecret, refundA),
      "7225d8d5a919ce3703742c6aa17aedaa6ea3478747b0f0424e9f8e1d73d22d00")]

/-- Hashing, decoding and case mapping on the texts of this world. -/
def platform : Platform where
  sha256Hex body :=
    ([(capturedA, "82da7227c1b07fca429373ce4a7ec82727885ba88c78e5d97e8d6bfd3aaa7996"),
      (capturedB, "9d1b363191d21a62f1746617e00f6bac0eca6ec2d9c8b39d165d59ab353ef338"),
      (refundA, "bf152a01b33cef7900cf3dad30f6610f6e14ad0a089ffc7b213d3ca4bf5d3778")].lookup
        body).getD ""
  hmacSha256Hex key message := (digests.lookup (key, message)).getD ""
  jsonLoads body :=
    [(capturedA, capturedEvent "evt_1" "order_A" "pay_A"),
      (capturedB, capturedEvent "evt_2" "order_B" "pay_B"), (refundA, refundEvent)].lookup body
  upper text := text
  lower text := text
  isoformat _ := ""
  ilikeContains _ _ := false
  textFault _ := .aborted
  minusNonInteger _ _ := .error .aborted
  validationErrorText _ _ _ := ""

def agent : Agent where
  id := "agt_1"
  name := "Procurement"
  ownerId := "prn_1"
  status := .active
  apiKeyHash := "hash_key_1"
  agentType := "PROCUREMENT"

def mandate : Mandate where
  id := "mnd_1"
  agentId := "agt_1"
  grantedById := "prn_1"
  parentMandateId := none
  delegationDepth := 0
  maxDelegationDepth := 2
  status := .active
  currency := "INR"
  maxAmountPerOp := 1000
  aggregateSpendLimit := 1000
  currentAggregateSpend := 0
  reservedSpend := 0
  delegatedChildBudgetAllocated := 0
  reviewThresholdAmount := none
  allowedOperations := []
  policyConfig := []
  suspensionReason := none
  version := 1
  validFrom := ⟨0, some 0⟩
  validUntil := ⟨1000, some 0⟩
  createdAt := ⟨0, some 0⟩

def table {ρ : Type} [Keyed ρ String] (r : ρ) : Table ρ := ⟨[r], List.nodup_singleton _⟩

/-- The agent holds the mandate; nothing has been requested. -/
def store : Store where
  principals := table ⟨"prn_1", true⟩
  agents := table agent
  mandates := table mandate
  operations := .empty
  transactions := []
  webhookEvents := .empty
  auditEvents := []

/-- An order of the agent under the mandate. -/
def order (id : String) (amount : ℤ) (key_length : 8 ≤ id.length ∧ id.length ≤ 128)
    (amount_pos : 0 < amount) : OperationCreate where
  idempotencyKey := id
  agentId := "agt_1"
  mandateId := "mnd_1"
  operationType := .createOrder
  amount
  currency := "INR"
  payload := []
  key_length
  amount_pos

/-- What the order meets; the gateway answers with `orderId`. -/
def inputs (id orderId : String) (amount : ℤ) : RequestInputs where
  id
  operationId := id
  createdAt := 10
  now := 10
  rateLimit := ⟨true, 60, 59, .int 0, none⟩
  gateway := ⟨.ok ⟨orderId, amount, "INR", "created"⟩, .error "", .error ""⟩

theorem mandate_1_named : "mnd_1".isEmpty = false := by decide

theorem mandate_2_named : "mnd_2".isEmpty = false := by decide

theorem length_A : 8 ≤ "operation_A".length ∧ "operation_A".length ≤ 128 := by decide

theorem length_B : 8 ≤ "operation_B".length ∧ "operation_B".length ≤ 128 := by decide

theorem fourHundred_pos : (0 : ℤ) < 400 := by decide

theorem sixHundred_pos : (0 : ℤ) < 600 := by decide

theorem thousand_pos : (0 : ℤ) < 1000 := by decide

def orderA : OperationCreate := order "operation_A" 600 length_A sixHundred_pos

def orderB : OperationCreate := order "operation_B" 400 length_B fourHundred_pos

def requestA : Action :=
  .request orderA ⟨none, none, none⟩ (inputs "operation_A" "order_A" 600)

def requestB : Action :=
  .request orderB ⟨none, none, none⟩ (inputs "operation_B" "order_B" 400)

def verifyA : Action := .verify "operation_A" ⟨"order_A", "pay_A", signatureA⟩

theorem signedA : verifyPaymentSignature platform settings "order_A" "pay_A" signatureA = .ok true := by
  rw [verifyPaymentSignature, if_neg (by decide +kernel), compareDigest, if_pos (by decide +kernel)]
  exact congrArg Except.ok (by decide +kernel)

theorem signedB : verifyPaymentSignature platform settings "order_B" "pay_B" signatureB = .ok true := by
  rw [verifyPaymentSignature, if_neg (by decide +kernel), compareDigest, if_pos (by decide +kernel)]
  exact congrArg Except.ok (by decide +kernel)

/-- The same world with a review threshold of 500. -/
def reviewStore : Store :=
  { store with mandates := table { mandate with reviewThresholdAmount := some 500 } }

def approve (id orderId : String) (amount : ℤ) (approved : Bool) : Action :=
  .approve id ⟨"prn_1", approved, none⟩ 20
    ⟨.ok ⟨orderId, amount, "INR", "created"⟩, .error "", .error ""⟩

/-- The same world with a second agent, who holds no mandate. -/
def twoAgents : Store :=
  { store with agents := ⟨[agent, { agent with id := "agt_2" }], by decide⟩ }

/-- The second agent's order under the first agent's mandate. -/
def foreignOrder : OperationCreate := { orderA with agentId := "agt_2" }

/-- A signed delivery. -/
def delivery (rawBody : String) : WebhookDelivery :=
  ⟨rawBody, platform.hmacSha256Hex settings.razorpayWebhookSecret rawBody, "evt_fresh"⟩

def deliver (rawBody : String) : Action :=
  .webhook ⟨rawBody, platform.hmacSha256Hex settings.razorpayWebhookSecret rawBody, "evt_fresh"⟩

/-- The operation and the call a list of observations shows first. -/
def firstCall (events : List Event) : Option (FinancialOperation × GatewayCall) :=
  events.findSome? fun
    | .gatewayCall op call => some (op, call)
    | _ => none

theorem mem_of_firstCall {events : List Event} {op : FinancialOperation} {call : GatewayCall}
    (h : firstCall events = some (op, call)) : .gatewayCall op call ∈ events := by
  obtain ⟨e, hm, he⟩ := List.exists_of_findSome?_eq_some h
  cases e with
  | gatewayCall op' call' =>
    cases he
    exact hm
  | issued _ => cases he
  | opened _ => cases he
  | posted _ _ _ _ => cases he
  | credited _ _ => cases he

end Sample

end MandatePlane.ControlPlane

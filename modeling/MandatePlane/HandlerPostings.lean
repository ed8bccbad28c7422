import MandatePlane.LedgerView
import MandatePlane.OperationRoutes
import MandatePlane.ReconciliationWorker
import MandatePlane.WebhookRoutes

/-!
# Every handler is a list of postings

For each handler that touches operations or counters: the ledger after it is the
ledger before it with its observations entered, and every observation follows the
rule for observations at the point where it is made.  Nothing else about mandates
and agents changes.

`verify_payment` is the exception.  It posts a commit from whatever status the
operation is in, so its one observation is described on its own.
-/

namespace MandatePlane.HandlerPostings

open DomainModel KeyedTable HoldLedger LabelledRun LedgerView HostEnvironment

/-- The observations explain how one store became another. -/
structure Explained (s : Store) (events : List Event) (s' : Store) : Prop where
  books : ledger s' = eventBook.run (ledger s) events
  ruled : eventBook.Along EventRule (ledger s) events
  grants : grants s' = grants s
  agents : s'.agents = s.agents

namespace Explained

variable {s s' s'' : Store} {events events' : List Event}

theorem quiet (hl : ledger s' = ledger s) (hg : LedgerView.grants s' = LedgerView.grants s)
    (ha : s'.agents = s.agents) : Explained s [] s' := ⟨hl, trivial, hg, ha⟩

theorem refl (s : Store) : Explained s [] s := quiet rfl rfl rfl

theorem trans (h : Explained s events s') (h' : Explained s' events' s'') :
    Explained s (events ++ events') s'' := by
  refine ⟨?_, ?_, h'.grants.trans h.grants, h'.agents.trans h.agents⟩
  · rw [h'.books, h.books, Machine.run_append]
  · rw [Machine.along_append, ← h.books]
    exact ⟨h.ruled, h'.ruled⟩

theorem single {e : Event} (hr : EventRule (ledger s) e)
    (hl : ledger s' = (ledger s).enter (entry e))
    (hg : LedgerView.grants s' = LedgerView.grants s) (ha : s'.agents = s.agents) :
    Explained s [e] s' := ⟨hl, ⟨hr, trivial⟩, hg, ha⟩

theorem audit (h : Explained s events s') (e : AuditEvent) : Explained s events (s'.audit e) :=
  ⟨h.books, h.ruled, h.grants, h.agents⟩

/-- After a posting the hold is in the target phase. -/
theorem find_posted {op : FinancialOperation} {target : OperationStatus} {dReserved dCommitted : ℤ}
    (h : Explained s [.posted op target dReserved dCommitted] s')
    (hfind : (ledger s).holds.find? op.id = some (operationHold op)) :
    (ledger s').holds.find? op.id = some (operationHold (op.moveTo target)) := by
  rw [h.books]
  show ((ledger s).holds.modify op.id (Hold.moveTo target)).find? op.id = _
  rw [Table.find?_modify_self, hfind]
  rfl

/-- Gateway calls for an operation that is reserved. -/
theorem calls {op : FinancialOperation} (hfind : (ledger s).holds.find? op.id = some (operationHold op))
    (hstatus : op.status = .reserved) (calls : List GatewayCall) :
    Explained s (calls.map (Event.gatewayCall op)) s := by
  induction calls with
  | nil => exact refl s
  | cons call calls ih =>
    have h : Explained s [.gatewayCall op call] s := single ⟨hfind, hstatus⟩ rfl rfl rfl
    exact h.trans ih

end Explained

/-! ### Gateway execution -/

section Operations

open OperationRoutes RazorpayClient PolicyEngine CallerAuth

/-- `_execute_gateway_operation` on an operation that has just been reserved. -/
theorem executeGatewayOperation_explained {env : Platform} {gateway : GatewayAnswers}
    {mandate : Mandate} {operation : FinancialOperation} {payload : JsonValue.Dict} {s : Store}
    (hfind : (ledger s).holds.find? operation.id = some (operationHold operation))
    (hstatus : operation.status = .reserved) (hmandate : mandate.id = operation.mandateId) :
    Explained s (executeGatewayOperation env gateway mandate operation payload s).events
      (executeGatewayOperation env gateway mandate operation payload s).store := by
  have hcalls := Explained.calls hfind hstatus
    (attemptGateway env gateway operation payload).1
  have hflight : operation.status.inFlight = true := by rw [hstatus]; rfl
  unfold executeGatewayOperation
  rw [hmandate]
  match hattempt : (attemptGateway env gateway operation payload).2 with
  | .ok .notDispatched =>
    simp only [hattempt]
    exact hcalls
  | .ok (.executing tx) =>
    simp only [hattempt]
    refine hcalls.trans (.single ⟨hfind, hstatus ▸ .execute⟩ ?_ (by simp) rfl)
    rw [ledger_moveTo, ledger_addTransaction, entry, enter_post_zero]
  | .ok (.settled tx) =>
    simp only [hattempt]
    refine hcalls.trans (.single ⟨hfind, .commit hflight⟩ ?_ (by simp) rfl)
    rw [ledger_commitDispatched, ledger_moveTo, ledger_addTransaction]
    rfl
  | .error text =>
    simp only [hattempt]
    refine hcalls.trans (.single ⟨hfind, .release hflight⟩ ?_ (by simp) rfl)
    rw [ledger_audit, ledger_moveToWith, ledger_release]
    rfl

/-- What a gateway execution observes: its calls, then at most one status write. -/
theorem executeGatewayOperation_events {env : Platform} {gateway : GatewayAnswers}
    {mandate : Mandate} {operation : FinancialOperation} {payload : JsonValue.Dict} {s : Store}
    {e : Event}
    (he : e ∈ (executeGatewayOperation env gateway mandate operation payload s).events) :
    (∃ call ∈ (attemptGateway env gateway operation payload).1, e = .gatewayCall operation call) ∨
      e = .posted operation .executing 0 0 ∨
      e = .posted operation .succeeded (-operation.amount) operation.amount ∨
      e = .posted operation .failed (-operation.amount) 0 := by
  have hcall {calls : List GatewayCall} (hm : e ∈ calls.map (Event.gatewayCall operation)) :
      ∃ call ∈ calls, e = .gatewayCall operation call := by
    obtain ⟨call, hcall, rfl⟩ := List.mem_map.mp hm
    exact ⟨call, hcall, rfl⟩
  unfold executeGatewayOperation at he
  match hattempt : (attemptGateway env gateway operation payload).2 with
  | .ok .notDispatched =>
    simp only [hattempt] at he
    exact .inl (hcall he)
  | .ok (.executing tx) =>
    simp only [hattempt, List.mem_append, List.mem_singleton] at he
    exact he.imp hcall .inl
  | .ok (.settled tx) =>
    simp only [hattempt, List.mem_append, List.mem_singleton] at he
    exact he.imp hcall fun h => .inr (.inl h)
  | .error text =>
    simp only [hattempt, List.mem_append, List.mem_singleton] at he
    exact he.imp hcall fun h => .inr (.inr h)

theorem orders_withDetails (s : Store) (id : String) (result : PolicyEvaluationResult)
    (hf : ∀ op, Keyed.key (withDetails result op) = Keyed.key op) :
    orders (s.updateOperation id (withDetails result) hf) = orders s :=
  orders_columns s fun _ => rfl

theorem orders_lostReservation (s : Store) (id : String) (result : PolicyEvaluationResult)
    (hf : ∀ op, Keyed.key (lostReservation result op) = Keyed.key op) :
    orders (s.updateOperation id (lostReservation result) hf) = orders s :=
  orders_columns s fun _ => rfl

theorem orders_grantApproval (s : Store) (id approvedById : String)
    (hf : ∀ op, Keyed.key (grantApproval approvedById op) = Keyed.key op) :
    orders (s.updateOperation id (grantApproval approvedById) hf) = orders s :=
  orders_columns s fun _ => rfl

theorem executeGatewayOperation_orders (env : Platform) (gateway : GatewayAnswers)
    (mandate : Mandate) (operation : FinancialOperation) (payload : JsonValue.Dict) (s : Store) :
    orders (executeGatewayOperation env gateway mandate operation payload s).store = orders s := by
  unfold executeGatewayOperation
  match hattempt : (attemptGateway env gateway operation payload).2 with
  | .ok .notDispatched => simp only [hattempt]
  | .ok (.executing tx) => simp [hattempt]
  | .ok (.settled tx) => simp [hattempt]
  | .error text => simp [hattempt]

theorem orderRequest_call {env : Platform} {amount : ℤ} {currency : String}
    {receipt : JsonValue.Json} {notes : List (String × String)} {call : GatewayCall}
    (h : orderRequest env amount currency receipt notes = .ok call) :
    ∃ receipt, call = .createOrder amount currency receipt notes := by
  unfold orderRequest at h
  split at h
  · cases hreceipt : optionalTextField env "RazorpayOrderRequest" "receipt" receipt with
    | error _ =>
      rw [hreceipt] at h
      cases h
    | ok receipt' =>
      rw [hreceipt] at h
      cases h
      exact ⟨receipt', rfl⟩
  · cases h

/-- **How a dispatch ends that the gateway accepts**, by the type of the operation: the calls it
made, and what it leaves. -/
inductive DispatchEnd (env : Platform) (gateway : GatewayAnswers) (operation : FinancialOperation)
    (payload : JsonValue.Dict) : List GatewayCall → Dispatched → Prop
  | ordered {call : GatewayCall} {order : RazorpayOrderResponse} {tx : Transaction}
      (htype : operation.operationType = .createOrder)
      (hcall : orderRequest env operation.amount operation.currency
        (JsonValue.dictGet payload "receipt"
          (.str s!"rcpt_{String.ofList (operation.operationId.toList.take 10)}"))
        [("operation_id", operation.operationId), ("agent_id", operation.agentId)] = .ok call)
      (hcreate : gateway.createOrder = .ok order) (hoperation : tx.operationId = operation.id)
      (horder : tx.gatewayOrderId = some order.id) :
      DispatchEnd env gateway operation payload [call] (.executing tx)
  | linked {calls : List GatewayCall} {tx : Transaction}
      (htype : operation.operationType = .createPaymentLink)
      (hoperation : tx.operationId = operation.id) (horder : tx.gatewayOrderId = none) :
      DispatchEnd env gateway operation payload calls (.executing tx)
  | refunded {calls : List GatewayCall} {tx : Transaction}
      (htype : operation.operationType = .createRefund)
      (hoperation : tx.operationId = operation.id) (horder : tx.gatewayOrderId = none) :
      DispatchEnd env gateway operation payload calls (.settled tx)
  | aside : DispatchEnd env gateway operation payload [] .notDispatched

theorem attemptGateway_end {env : Platform} {gateway : GatewayAnswers}
    {operation : FinancialOperation} {payload : JsonValue.Dict} {dispatched : Dispatched}
    (h : (attemptGateway env gateway operation payload).2 = .ok dispatched) :
    DispatchEnd env gateway operation payload (attemptGateway env gateway operation payload).1
      dispatched := by
  unfold attemptGateway at h ⊢
  split at h
  · rename_i htype
    unfold attemptOrder at h ⊢
    split at h
    · cases h
    · rename_i call hcall
      obtain ⟨order, hcreate, rfl⟩ := except_map_eq_ok h
      exact .ordered htype hcall hcreate rfl rfl
  · rename_i htype
    unfold attemptPaymentLink at h
    split at h
    · cases h
    · obtain ⟨link, -, rfl⟩ := except_map_eq_ok h
      exact .linked htype rfl rfl
  · rename_i htype
    unfold attemptRefund at h
    dsimp only at h
    split at h
    · split at h
      · cases h
      · obtain ⟨refund, -, rfl⟩ := except_map_eq_ok h
        exact .refunded htype rfl rfl
    · cases h
  · cases h
    exact .aside
  · cases h
    exact .aside

/-- **What a dispatch ties to its operation**: the order that its one call created, or no order. -/
theorem attemptGateway_dispatched {env : Platform} {gateway : GatewayAnswers}
    {operation : FinancialOperation} {payload : JsonValue.Dict} {dispatched : Dispatched}
    {tx : Transaction} (h : (attemptGateway env gateway operation payload).2 = .ok dispatched)
    (htx : dispatched = .executing tx ∨ dispatched = .settled tx) :
    tx.operationId = operation.id ∧ (tx.gatewayOrderId = none ∨
      ∃ order amount currency receipt notes, gateway.createOrder = .ok order ∧
        tx.gatewayOrderId = some order.id ∧
        (attemptGateway env gateway operation payload).1 =
          [.createOrder amount currency receipt notes]) := by
  have hend := attemptGateway_end h
  generalize (attemptGateway env gateway operation payload).1 = calls at hend ⊢
  cases hend with
  | ordered htype hcall hcreate hoperation horder =>
    obtain ⟨receipt, rfl⟩ := orderRequest_call hcall
    rcases htx with htx | htx <;> cases htx
    exact ⟨hoperation, .inr ⟨_, _, _, receipt, _, hcreate, horder, rfl⟩⟩
  | linked htype hoperation horder =>
    rcases htx with htx | htx <;> cases htx
    exact ⟨hoperation, .inl horder⟩
  | refunded htype hoperation horder =>
    rcases htx with htx | htx <;> cases htx
    exact ⟨hoperation, .inl horder⟩
  | aside => rcases htx with htx | htx <;> cases htx

/-- The order of a link is one the gateway has just created. -/
theorem attemptGateway_link {env : Platform} {gateway : GatewayAnswers}
    {operation : FinancialOperation} {payload : JsonValue.Dict} {dispatched : Dispatched}
    {tx : Transaction} (h : (attemptGateway env gateway operation payload).2 = .ok dispatched)
    (htx : dispatched = .executing tx ∨ dispatched = .settled tx) {id : String}
    (hid : tx.gatewayOrderId = some id) :
    ∃ order, gateway.createOrder = .ok order ∧ order.id = id := by
  obtain ⟨-, hnone | ⟨order, _, _, _, _, hcreate, horder, -⟩⟩ := attemptGateway_dispatched h htx
  · rw [hnone] at hid
    cases hid
  · rw [horder] at hid
    exact ⟨order, hcreate, Option.some.inj hid⟩

/-- The links a store has after a dispatch: those from before and at most one more, to an order the
gateway has just created. -/
def Linked (gateway : GatewayAnswers) (s s' : Store) : Prop :=
  links s' = links s ∨ ∃ link, links s' = links s ++ [link] ∧
    ∀ id, link.2 = some id → ∃ order, gateway.createOrder = .ok order ∧ order.id = id

theorem executeGatewayOperation_linked (env : Platform) (gateway : GatewayAnswers)
    (mandate : Mandate) (operation : FinancialOperation) (payload : JsonValue.Dict) (s : Store) :
    Linked gateway s (executeGatewayOperation env gateway mandate operation payload s).store := by
  unfold executeGatewayOperation
  match hattempt : (attemptGateway env gateway operation payload).2 with
  | .ok .notDispatched =>
    simp only [hattempt]
    exact .inl rfl
  | .ok (.executing tx) =>
    simp only [hattempt]
    exact .inr ⟨linkOf tx, List.map_append, fun _ hid =>
      attemptGateway_link hattempt (.inl rfl) hid⟩
  | .ok (.settled tx) =>
    simp only [hattempt]
    exact .inr ⟨linkOf tx, List.map_append, fun _ hid =>
      attemptGateway_link hattempt (.inr rfl) hid⟩
  | .error text =>
    simp only [hattempt]
    exact .inl rfl

/-- A reservation the conditional UPDATE granted. -/
theorem reserveBudget_eq_some {s s' : Store} {mandateId : String} {amount : ℤ}
    (h : reserveBudget s mandateId amount = some s') :
    s' = s.updateMandate mandateId (Mandate.reserve amount) ∧
      ∃ m, s.mandates.find? mandateId = some m ∧
        m.currentAggregateSpend + m.reservedSpend + amount ≤ m.aggregateSpendLimit := by
  unfold reserveBudget at h
  split at h
  · cases h
  · rename_i m hm
    split at h
    · rename_i hle
      cases h
      exact ⟨rfl, m, hm, hle⟩
    · cases h

/-- The reservation as a posting. -/
theorem reserve_explained {s s' : Store} {op : FinancialOperation} {grant : FinancialOperation →
    FinancialOperation} {hf : ∀ op, Keyed.key (grant op) = Keyed.key op}
    (hfind : (ledger s).holds.find? op.id = some (operationHold op))
    (hsource : op.status = .initiated ∨ op.status = .requiresApproval)
    (hreserve : reserveBudget s op.mandateId op.amount = some s')
    (hgrant : ∀ op, operationHold (grant op) = (operationHold op).moveTo .reserved) :
    Explained s [.posted op .reserved op.amount 0] (s'.updateOperation op.id grant hf) := by
  obtain ⟨rfl, m, hm, hle⟩ := reserveBudget_eq_some hreserve
  have hacc : (ledger s).accounts.find? op.mandateId = some (mandateAccount m) := by
    rw [accounts_find?, hm]
    rfl
  refine .single ⟨hfind, .reserve hsource hacc hle⟩ ?_ ?_ rfl
  · rw [ledger_status _ hgrant, ledger_reserve]
    rfl
  · rw [grants_updateOperation, grants_reserve]

/-- What a request that got as far as a policy decision did, by the decision and whether the
mandate had room for the amount. -/
inductive Decided (env : Platform) (inputs : RequestInputs) (mandate : Mandate)
    (op : FinancialOperation) (s : Store) (decision : PolicyDecisionType) :
    List Event → Store → Prop
  | rejected {s' : Store}
      (hdecision : decision = .deny ∨ decision = .allow ∧
        ¬ mandate.currentAggregateSpend + mandate.reservedSpend + op.amount ≤
          mandate.aggregateSpendLimit)
      (hm : s'.mandates = s.mandates) (ht : s'.transactions = s.transactions) :
      Decided env inputs mandate op s decision [.opened op, .posted op .policyRejected 0 0] s'
  | parked {s' : Store} (hdecision : decision = .requireHumanReview)
      (hm : s'.mandates = s.mandates) (ht : s'.transactions = s.transactions) :
      Decided env inputs mandate op s decision [.opened op, .posted op .requiresApproval 0 0] s'
  | dispatched {s₀ : Store} (hdecision : decision = .allow)
      (hroom : mandate.currentAggregateSpend + mandate.reservedSpend + op.amount ≤
        mandate.aggregateSpendLimit)
      (done : Committed FinancialOperation)
      (hdone : done = executeGatewayOperation env inputs.gateway mandate (op.moveTo .reserved)
        op.payload s₀) (hbefore : s₀.transactions = s.transactions) :
      Decided env inputs mandate op s decision
        (.opened op :: .posted op .reserved op.amount 0 :: done.events) done.store

/-- The insert of an operation together with its evaluation. -/
theorem recordEvaluation_explained {payload : OperationCreate} {op : FinancialOperation}
    {result : PolicyEvaluationResult} {mandate : Mandate} {s₀ s₁ : Store}
    (hinsert : s₀.insertOperation op = some s₁) (hstatus : op.status = .initiated)
    (hpos : 0 < op.amount) (hmandate : s₀.mandates.find? op.mandateId = some mandate) :
    Explained s₀ [.opened (withDetails result op)] (recordEvaluation payload op result s₁) ∧
      (ledger (recordEvaluation payload op result s₁)).holds.find? op.id =
        some (operationHold op) := by
  obtain ⟨hl, hfresh, hfind, hg, ha, -, -⟩ := ledger_insertOperation hinsert
  have hsame : ledger (recordEvaluation payload op result s₁) = ledger s₁ := by
    rw [recordEvaluation, ledger_audit]
    exact ledger_columns _ fun _ => rfl
  have hacc : ∃ a, (ledger s₀).accounts.find? op.mandateId = some a := by
    rw [accounts_find?, hmandate]
    exact ⟨_, rfl⟩
  constructor
  · exact .single ⟨hstatus, hpos, hfresh, hacc⟩ (hsame.trans hl) hg ha
  · rw [hsame, holds_find?, hfind]
    rfl

/-- **Steps 4 to 7 of a request.**  `op` has been inserted and evaluated; `s₀` is the store before
and `s` the one after. -/
theorem actOnDecision_spec {env : Platform} {payload : OperationCreate} {inputs : RequestInputs}
    {mandate : Mandate} {op : FinancialOperation} {result : PolicyEvaluationResult} {s₀ s : Store}
    (hopen : Explained s₀ [.opened op] s)
    (hfind : (ledger s).holds.find? op.id = some (operationHold op))
    (hstatus : op.status = .initiated) (hamount : payload.amount = op.amount)
    (hpayload : payload.payload = op.payload) (hms : s.mandates = s₀.mandates)
    (hts : s.transactions = s₀.transactions)
    (hmandate : s₀.mandates.find? op.mandateId = some mandate) :
    Explained s₀ (actOnDecision env payload inputs mandate op result s).events
        (actOnDecision env payload inputs mandate op result s).store ∧
      orders (actOnDecision env payload inputs mandate op result s).store = orders s ∧
      Decided env inputs mandate op s₀ result.decision
        (actOnDecision env payload inputs mandate op result s).events
        (actOnDecision env payload inputs mandate op result s).store := by
  have hkey : mandate.id = op.mandateId := Table.key_of_find? hmandate
  -- a status write that ends the request without touching any mandate
  have hend : ∀ {target : OperationStatus} {f : FinancialOperation → FinancialOperation}
      {hf : ∀ r, Keyed.key (f r) = Keyed.key r}
      (_ : Posting ((ledger s).accounts.find? op.mandateId) op.amount .initiated target 0 0)
      (_ : ∀ r, operationHold (f r) = (operationHold r).moveTo target),
      Explained s₀ [.opened op, .posted op target 0 0] (s.updateOperation op.id f hf) := by
    intro target f hf hposting hhold
    refine hopen.trans (.single ⟨hfind, hstatus.symm ▸ hposting⟩ ?_ rfl rfl)
    rw [ledger_status _ hhold, entry, enter_post_zero]
  unfold actOnDecision
  split
  · rename_i hdecision
    exact ⟨hend (.reject (.inl rfl)) fun _ => rfl, orders_moveToWith _ _ _ _ _,
      .rejected (.inl hdecision) hms hts⟩
  · rename_i hdecision
    exact ⟨hend .park fun _ => rfl, orders_moveToWith _ _ _ _ _, .parked hdecision hms hts⟩
  · rename_i hdecision
    rw [hkey, hamount, hpayload]
    split
    · rename_i hlost
      refine ⟨hend (.reject (.inl rfl)) fun _ => rfl, orders_lostReservation _ _ _ _,
        .rejected (.inr ⟨hdecision, fun hle => ?_⟩) hms hts⟩
      rw [reserveBudget, hms, hmandate] at hlost
      simp only [if_pos hle] at hlost
      cases hlost
    · rename_i s₁ hreserve
      have hres : Explained s [.posted op .reserved op.amount 0]
          (s₁.updateOperation op.id (.moveTo .reserved)) :=
        reserve_explained hfind (.inl hstatus) hreserve fun _ => rfl
      have hres := hres.audit (reserveAudit mandate op)
      generalize hs₂ : (s₁.updateOperation op.id (.moveTo .reserved)).audit
        (reserveAudit mandate op) = s₂ at hres ⊢
      have ho₂ : orders s₂ = orders s := by
        rw [← hs₂, orders_audit, orders_moveTo, (reserveBudget_eq_some hreserve).1,
          orders_updateMandate]
      have hexec : Explained s₂ _ (executeGatewayOperation env inputs.gateway mandate
          (op.moveTo .reserved) op.payload s₂).store :=
        executeGatewayOperation_explained (hres.find_posted hfind) rfl hkey
      have ht₂ : s₂.transactions = s₀.transactions := by
        rw [← hs₂, ← hts, (reserveBudget_eq_some hreserve).1]
        rfl
      refine ⟨(hopen.trans hres).trans hexec, ?_, .dispatched hdecision ?_ _ rfl ht₂⟩
      · exact (executeGatewayOperation_orders _ _ _ _ _ _).trans ho₂
      · obtain ⟨-, m, hm, hle⟩ := reserveBudget_eq_some hreserve
        rw [hms, hmandate] at hm
        cases hm
        exact hle

/-! ### `POST /operations`, by what it meets -/

section Request

variable {env : Platform} {settings : Settings} {payload : OperationCreate}
  {headers : CallerHeaders} {inputs : RequestInputs} {s : Store} {refusal : Refusal}

theorem request_refused
    (hauth : authenticateRequest env settings payload headers s.agents = .error refusal) :
    requestFinancialOperation env settings payload headers inputs s = .error refusal := by
  unfold requestFinancialOperation
  rw [hauth]
  rfl

/-- A key that several rows carry. -/
theorem request_ambiguous
    (hauth : authenticateRequest env settings payload headers s.agents = .ok ())
    (hkey : s.operationByIdempotencyKey payload.idempotencyKey = .error refusal) :
    requestFinancialOperation env settings payload headers inputs s = .error refusal := by
  unfold requestFinancialOperation
  rw [hauth, hkey]
  rfl

/-- A key that one row carries. -/
theorem request_stored {existingOp : FinancialOperation}
    (hauth : authenticateRequest env settings payload headers s.agents = .ok ())
    (hkey : s.operationByIdempotencyKey payload.idempotencyKey = .ok (some existingOp)) :
    requestFinancialOperation env settings payload headers inputs s = .ok ⟨existingOp, s, []⟩ := by
  unfold requestFinancialOperation
  rw [hauth, hkey]
  rfl

/-- A request that gets as far as the decision: what it found, inserted and evaluated. -/
structure Evaluated (env : Platform) (settings : Settings) (payload : OperationCreate)
    (headers : CallerHeaders) (inputs : RequestInputs) (s : Store) (agent : Agent)
    (mandate : Mandate) (s₁ : Store) (result : PolicyEvaluationResult) : Prop where
  authenticated : authenticateRequest env settings payload headers s.agents = .ok ()
  fresh : s.operationByIdempotencyKey payload.idempotencyKey = .ok none
  agentFound : s.agents.find? payload.agentId = some agent
  mandateFound : s.mandates.find? payload.mandateId = some mandate
  inserted : s.insertOperation (newOperation env payload inputs) = some s₁
  evaluated : evaluate env (requestEvaluation inputs) agent mandate
    (newOperation env payload inputs) = .ok result

theorem Evaluated.returns {agent : Agent} {mandate : Mandate} {s₁ : Store}
    {result : PolicyEvaluationResult}
    (h : Evaluated env settings payload headers inputs s agent mandate s₁ result) :
    requestFinancialOperation env settings payload headers inputs s =
      .ok (actOnDecision env payload inputs mandate
        (withDetails result (newOperation env payload inputs)) result
        (recordEvaluation payload (newOperation env payload inputs) result s₁)) := by
  unfold requestFinancialOperation decideOperation
  rw [h.authenticated, h.fresh, h.mandateFound, h.agentFound]
  simp only [bind, Except.bind, orRefuse, h.inserted, h.evaluated]
  rfl

/-- **A request returns in two ways**: with the row stored under its key, or with what the
decision made of a new one. -/
theorem request_returned {c : Committed FinancialOperation}
    (h : requestFinancialOperation env settings payload headers inputs s = .ok c) :
    (∃ existingOp, s.operationByIdempotencyKey payload.idempotencyKey = .ok (some existingOp) ∧
      c = ⟨existingOp, s, []⟩) ∨
    ∃ agent mandate s₁ result,
      Evaluated env settings payload headers inputs s agent mandate s₁ result ∧
        c = actOnDecision env payload inputs mandate
          (withDetails result (newOperation env payload inputs)) result
          (recordEvaluation payload (newOperation env payload inputs) result s₁) := by
  obtain ⟨_, hauth, h⟩ := bind_eq_ok.mp h
  obtain ⟨existing, hexisting, h⟩ := bind_eq_ok.mp h
  cases existing with
  | some existingOp =>
    cases h
    exact .inl ⟨existingOp, hexisting, rfl⟩
  | none =>
    obtain ⟨mandate, hmandate, h⟩ := bind_eq_ok.mp h
    obtain ⟨agent, hagent, h⟩ := bind_eq_ok.mp h
    obtain ⟨s₁, hinsert, h⟩ := bind_eq_ok.mp h
    obtain ⟨result, hresult, h⟩ := bind_eq_ok.mp h
    rw [orRefuse_eq_ok] at hmandate hagent hinsert
    cases h
    exact .inr ⟨agent, mandate, s₁, result,
      ⟨hauth, hexisting, hagent, hmandate, hinsert, hresult⟩, rfl⟩

end Request

/-- A request that inserted its operation: what it found, what was decided, what it did. -/
structure Requested (env : Platform) (settings : Settings) (payload : OperationCreate)
    (headers : CallerHeaders) (inputs : RequestInputs) (s : Store) (events : List Event) (s' : Store)
    (agent : Agent) (mandate : Mandate) (result : PolicyEvaluationResult) : Prop where
  authenticated : authenticateRequest env settings payload headers s.agents = .ok ()
  fresh : s.operationByIdempotencyKey payload.idempotencyKey = .ok none
  inserted : ∃ s₁, s.insertOperation (newOperation env payload inputs) = some s₁
  agentFound : s.agents.find? payload.agentId = some agent
  mandateFound : s.mandates.find? payload.mandateId = some mandate
  evaluated : evaluate env (requestEvaluation inputs) agent mandate
    (newOperation env payload inputs) = .ok result
  explained : Explained s events s'
  ordered : (orders s).insert (orderOf (newOperation env payload inputs)) = some (orders s')
  decided : Decided env inputs mandate (withDetails result (newOperation env payload inputs)) s
    result.decision events s'

/-- **`POST /operations`.**  A stored operation is returned as it is, or a new one is inserted and
taken as far as the decision on it allows. -/
theorem requestFinancialOperation_spec {env : Platform} {settings : Settings}
    {payload : OperationCreate} {headers : CallerHeaders} {inputs : RequestInputs} {s : Store}
    {c : Committed FinancialOperation}
    (h : requestFinancialOperation env settings payload headers inputs s = .ok c) :
    (c.store = s ∧ c.events = []) ∨
      ∃ agent mandate result,
        Requested env settings payload headers inputs s c.events c.store agent mandate result := by
  rcases request_returned h with ⟨existingOp, -, rfl⟩ | ⟨agent, mandate, s₁, result, hev, rfl⟩
  · exact .inl ⟨rfl, rfl⟩
  · obtain ⟨-, -, -, -, -, hts, hms⟩ := ledger_insertOperation hev.inserted
    have hrec : Explained s [.opened (withDetails result (newOperation env payload inputs))]
          (recordEvaluation payload (newOperation env payload inputs) result s₁) ∧
        (ledger (recordEvaluation payload (newOperation env payload inputs) result s₁)).holds.find?
          inputs.id = some (operationHold (newOperation env payload inputs)) :=
      recordEvaluation_explained hev.inserted rfl payload.amount_pos hev.mandateFound
    obtain ⟨hexp, hord, hdec⟩ := @actOnDecision_spec env payload inputs _ _ result _ _
      hrec.1 hrec.2 rfl rfl rfl hms hts hev.mandateFound
    refine .inr ⟨agent, mandate, result, hev.authenticated, hev.fresh, ⟨s₁, hev.inserted⟩,
      hev.agentFound, hev.mandateFound, hev.evaluated, hexp, ?_, hdec⟩
    have hsame : orders (recordEvaluation payload (newOperation env payload inputs) result s₁) =
        orders s₁ := by
      rw [recordEvaluation, orders_audit, orders_withDetails]
    rw [hord, hsame]
    exact orders_insertOperation hev.inserted

/-- The ways an approval call returns, once it has found its operation and the mandate. -/
inductive ApprovalDone (env : Platform) (approval : HumanApprovalRequest) (gateway : GatewayAnswers)
    (op : FinancialOperation) (mandate : Mandate) (s : Store) : Committed FinancialOperation → Prop
  | declined {message : String} : ApprovalDone env approval gateway op mandate s
      ⟨op.moveToWith .policyRejected (some message),
        (s.updateOperation op.id (.moveToWith .policyRejected (some message))).audit
          (approvalAudit .humanApprovalRejected approval
            (op.moveToWith .policyRejected (some message)) [("reason", .str message)]),
        [.posted op .policyRejected 0 0]⟩
  | exhausted {message : String} : ApprovalDone env approval gateway op mandate s
      ⟨op.moveToWith .policyRejected (some message),
        s.updateOperation op.id (.moveToWith .policyRejected (some message)),
        [.posted op .policyRejected 0 0]⟩
  | granted {s₁ : Store} {done : Committed FinancialOperation} (happroved : approval.approved = true)
      (hreserve : reserveBudget s mandate.id op.amount = some s₁)
      (hdone : done = executeGatewayOperation env gateway mandate
        (grantApproval approval.approvedById op) op.payload
        ((s₁.updateOperation op.id (grantApproval approval.approvedById)).audit
          (approvalAudit .humanApprovalGranted approval (grantApproval approval.approvedById op)
            [("approved_by", .str approval.approvedById), ("amount", .int op.amount)]))) :
      ApprovalDone env approval gateway op mandate s
        { done with events := .posted op .reserved op.amount 0 :: done.events }

/-- **What an approval call that returns has found**, and the way it took. -/
theorem approval_returned {env : Platform} {operationId : String} {approval : HumanApprovalRequest}
    {gateway : GatewayAnswers} {s : Store} {c : Committed FinancialOperation}
    (h : humanApproveOperation env operationId approval gateway s = .ok c) :
    ∃ op mandate, s.operationByOperationId operationId = .ok (some op) ∧
      op.status = .requiresApproval ∧ s.mandates.find? op.mandateId = some mandate ∧
      ApprovalDone env approval gateway op mandate s c := by
  obtain ⟨row, hrow, h⟩ := bind_eq_ok.mp h
  obtain ⟨op, hop, h⟩ := bind_eq_ok.mp h
  obtain ⟨_, hstatus, h⟩ := bind_eq_ok.mp h
  obtain ⟨mandate, hmandate, h⟩ := bind_eq_ok.mp h
  rw [orRefuse_eq_ok] at hop hmandate
  rw [hop] at hrow
  rw [ensure_eq_ok, decide_eq_true_eq] at hstatus
  refine ⟨op, mandate, hrow, hstatus, hmandate, ?_⟩
  split at h
  · cases h
    exact .declined
  · rename_i happroved
    split at h
    · cases h
      exact .exhausted
    · rename_i s₁ hreserve
      cases h
      exact .granted (by simpa using happroved) hreserve rfl

/-- What an approval call did to the operation it found. -/
inductive Approved (env : Platform) (approval : HumanApprovalRequest) (gateway : GatewayAnswers)
    (op : FinancialOperation) (mandate : Mandate) (s : Store) : List Event → Store → Prop
  | rejected {s' : Store} (hm : s'.mandates = s.mandates)
      (ht : s'.transactions = s.transactions) :
      Approved env approval gateway op mandate s [.posted op .policyRejected 0 0] s'
  | dispatched {s₀ : Store} (happroved : approval.approved = true)
      (hroom : mandate.currentAggregateSpend + mandate.reservedSpend + op.amount ≤
        mandate.aggregateSpendLimit)
      (done : Committed FinancialOperation)
      (hdone : done = executeGatewayOperation env gateway mandate
        (grantApproval approval.approvedById op) op.payload s₀)
      (hbefore : s₀.transactions = s.transactions) :
      Approved env approval gateway op mandate s
        (.posted op .reserved op.amount 0 :: done.events) done.store

/-- **`POST /operations/{operation_id}/approve`.** -/
theorem humanApproveOperation_spec {env : Platform} {operationId : String}
    {approval : HumanApprovalRequest} {gateway : GatewayAnswers} {s : Store}
    {c : Committed FinancialOperation}
    (h : humanApproveOperation env operationId approval gateway s = .ok c) :
    ∃ op mandate, s.operations.find? op.id = some op ∧
      s.operationByOperationId operationId = .ok (some op) ∧
      op.status = .requiresApproval ∧ s.mandates.find? op.mandateId = some mandate ∧
      Explained s c.events c.store ∧ orders c.store = orders s ∧
      Approved env approval gateway op mandate s c.events c.store := by
  obtain ⟨op, mandate, hrow, hstatus, hmandate, hdone⟩ := approval_returned h
  obtain ⟨hfindRow, -⟩ := Store.find?_of_operationByOperationId hrow
  have hkey : mandate.id = op.mandateId := Table.key_of_find? hmandate
  have hfind : (ledger s).holds.find? op.id = some (operationHold op) := by
    rw [holds_find?, hfindRow]
    rfl
  have hreject (message : Option String) : Explained s [.posted op .policyRejected 0 0]
      (s.updateOperation op.id (.moveToWith .policyRejected message)) := by
    refine .single ⟨hfind, hstatus.symm ▸ .reject (.inr rfl)⟩ ?_ rfl rfl
    rw [ledger_moveToWith, entry, enter_post_zero]
  refine ⟨op, mandate, hfindRow, hrow, hstatus, hmandate, ?_⟩
  cases hdone with
  | declined => exact ⟨(hreject _).audit _, by simp, .rejected rfl rfl⟩
  | exhausted => exact ⟨hreject _, by simp, .rejected rfl rfl⟩
  | @granted s₁ done happroved hreserve hdone =>
    rw [hkey] at hreserve
    have hres : Explained s [.posted op .reserved op.amount 0]
        (s₁.updateOperation op.id (grantApproval approval.approvedById)) :=
      reserve_explained hfind (.inr hstatus) hreserve fun _ => rfl
    have hres := hres.audit (approvalAudit .humanApprovalGranted approval
      (grantApproval approval.approvedById op)
      [("approved_by", .str approval.approvedById), ("amount", .int op.amount)])
    generalize hs₂ : (s₁.updateOperation op.id (grantApproval approval.approvedById)).audit
      (approvalAudit .humanApprovalGranted approval (grantApproval approval.approvedById op)
        [("approved_by", .str approval.approvedById), ("amount", .int op.amount)]) = s₂
      at hres hdone
    subst hdone
    have ho₂ : orders s₂ = orders s := by
      rw [← hs₂, orders_audit, (reserveBudget_eq_some hreserve).1]
      rw [orders_grantApproval, orders_updateMandate]
    have hexec : Explained s₂ _ (executeGatewayOperation env gateway mandate
        (grantApproval approval.approvedById op) op.payload s₂).store :=
      executeGatewayOperation_explained (hres.find_posted hfind) rfl hkey
    have ht₂ : s₂.transactions = s.transactions := by
      rw [← hs₂, (reserveBudget_eq_some hreserve).1]
      rfl
    obtain ⟨-, m, hm, hroom⟩ := reserveBudget_eq_some hreserve
    rw [hmandate] at hm
    cases hm
    exact ⟨hres.trans hexec, (executeGatewayOperation_orders _ _ _ _ _ _).trans ho₂,
      .dispatched happroved hroom _ rfl ht₂⟩

/-- **`POST /operations/{operation_id}/verify-payment`.**  One commit of the amount, from whatever
status the operation is in. -/
theorem verifyPayment_spec {env : Platform} {settings : Settings} {operationId : String}
    {payload : PaymentVerifyRequest} {s : Store} {c : Committed PaymentVerified}
    (h : verifyPayment env settings operationId payload s = .ok c) :
    ∃ (op : FinancialOperation) (tx : Option Transaction), s.operations.find? op.id = some op ∧
      s.operationByOperationId operationId = .ok (some op) ∧
      verifyPaymentSignature env settings payload.razorpayOrderId payload.razorpayPaymentId
        payload.razorpaySignature = .ok true ∧
      s.transactionsOf op.id = tx.toList ∧
      c.events = [.posted op .succeeded (-op.amount) op.amount] ∧
      ledger c.store = (ledger s).enter
        (.post op.id op.mandateId .succeeded (-op.amount) op.amount) ∧
      grants c.store = grants s ∧ orders c.store = orders s ∧ c.store.agents = s.agents ∧
      links c.store = links s := by
  obtain ⟨row, hrow, h⟩ := bind_eq_ok.mp h
  obtain ⟨op, hop, h⟩ := bind_eq_ok.mp h
  obtain ⟨isValid, hvalid, h⟩ := bind_eq_ok.mp h
  obtain ⟨_, htrue, h⟩ := bind_eq_ok.mp h
  obtain ⟨tx, htx, h⟩ := bind_eq_ok.mp h
  rw [orRefuse_eq_ok] at hop
  rw [hop] at hrow
  rw [ensure_eq_ok] at htrue
  rw [htrue] at hvalid
  rw [scalarOneOrFail_eq_ok] at htx
  cases h
  have hbooks (s : Store) : ledger (recordPayment op payload.razorpayPaymentId tx s) = ledger s := by
    cases tx <;> rfl
  have hgrants (s : Store) : grants (recordPayment op payload.razorpayPaymentId tx s) = grants s := by
    cases tx <;> rfl
  have horders (s : Store) : orders (recordPayment op payload.razorpayPaymentId tx s) = orders s := by
    cases tx <;> rfl
  have hagents (s : Store) : (recordPayment op payload.razorpayPaymentId tx s).agents = s.agents := by
    cases tx <;> rfl
  have hlinks (s : Store) : links (recordPayment op payload.razorpayPaymentId tx s) = links s := by
    cases tx with
    | none => rfl
    | some _ => exact links_updateTransactions s fun _ => rfl
  refine ⟨op, tx, (Store.find?_of_operationByOperationId hrow).1, hrow, hvalid, htx, rfl, ?_, ?_,
    ?_, hagents _, hlinks _⟩
  · rw [ledger_audit, ledger_moveTo, hbooks, ledger_audit, ledger_commitReserved]
    rfl
  · rw [grants_audit, grants_updateOperation, hgrants, grants_audit, grants_commitReserved]
  · rw [orders_audit, orders_moveTo, horders, orders_audit, orders_updateMandate]

end Operations

/-! ### Webhooks -/

section Webhooks

open WebhookRoutes JsonValue

/-- What the budget write of a settlement leaves, apart from the counters of one mandate. -/
structure BudgetWrite (op : FinancialOperation) (target : OperationStatus) (s : Store)
    (budget : Store × Event) (dReserved dCommitted : ℤ) : Prop where
  event : budget.2 = .posted op target dReserved dCommitted
  posting : Posting ((ledger s).accounts.find? op.mandateId) op.amount op.status target
    dReserved dCommitted
  books : ledger budget.1 = (ledger s).moveAccount op.mandateId dReserved dCommitted
  grants : grants budget.1 = grants s
  orders : orders budget.1 = orders s
  agents : budget.1.agents = s.agents

theorem captureBudget_write {op : FinancialOperation} {s : Store}
    (hflight : op.status.inFlight = true) :
    ∃ dReserved dCommitted,
      BudgetWrite op .succeeded s (captureBudget op s) dReserved dCommitted := by
  unfold captureBudget
  split
  · rename_i hm
    have hacc : (ledger s).accounts.find? op.mandateId = none := by rw [accounts_find?, hm]; rfl
    exact ⟨0, 0, rfl, .commitUnfunded hflight hacc, (moveAccount_zero _ _).symm, rfl, rfl, rfl⟩
  · rename_i mandate hm
    have hacc : (ledger s).accounts.find? op.mandateId = some (mandateAccount mandate) := by
      rw [accounts_find?, hm]
      rfl
    rw [show mandate.id = op.mandateId from Table.key_of_find? hm]
    split
    · exact ⟨_, _, rfl, .commit hflight, ledger_commitReserved _ _ _ _,
        grants_commitReserved _ _ _ _, rfl, rfl⟩
    · rename_i hlow
      exact ⟨_, _, rfl, .commitUncovered hflight hacc (not_le.mp hlow),
        ledger_commitUnreserved _ _ _ _, grants_commitUnreserved _ _ _ _, rfl, rfl⟩

theorem failureBudget_write {op : FinancialOperation} {s : Store}
    (hflight : op.status.inFlight = true) :
    ∃ dReserved dCommitted,
      BudgetWrite op .failed s (failureBudget op s) dReserved dCommitted := by
  unfold failureBudget
  split
  · rename_i hm
    have hacc : (ledger s).accounts.find? op.mandateId = none := by rw [accounts_find?, hm]; rfl
    exact ⟨0, 0, rfl, .releaseUnfunded hflight hacc, (moveAccount_zero _ _).symm, rfl, rfl, rfl⟩
  · rename_i mandate hm
    have hacc : (ledger s).accounts.find? op.mandateId = some (mandateAccount mandate) := by
      rw [accounts_find?, hm]
      rfl
    rw [show mandate.id = op.mandateId from Table.key_of_find? hm]
    split
    · exact ⟨_, _, rfl, .release hflight, ledger_release _ _ _ _, grants_release _ _ _ _, rfl, rfl⟩
    · rename_i hlow
      exact ⟨0, 0, rfl, .releaseUncovered hflight hacc (not_le.mp hlow),
        (moveAccount_zero _ _).symm, rfl, rfl, rfl⟩

/-- A settlement: the budget write, the status, the transaction, the audit record. -/
theorem settlement_explained {op : FinancialOperation} {target : OperationStatus} {s : Store}
    {budget : Store × Event} {dReserved dCommitted : ℤ}
    {f : FinancialOperation → FinancialOperation} {hf : ∀ r, Keyed.key (f r) = Keyed.key r}
    {p : Transaction → Bool} {g : Transaction → Transaction} {e : AuditEvent}
    (hfind : s.operations.find? op.id = some op)
    (hwrite : BudgetWrite op target s budget dReserved dCommitted)
    (hhold : ∀ r, operationHold (f r) = (operationHold r).moveTo target)
    (horder : ∀ r, orderOf (f r) = orderOf r) :
    Explained s [budget.2] (((budget.1.updateOperation op.id f hf).updateTransactions p g).audit e) ∧
      orders (((budget.1.updateOperation op.id f hf).updateTransactions p g).audit e) =
        orders s := by
  have hfindHold : (ledger s).holds.find? op.id = some (operationHold op) := by
    rw [holds_find?, hfind]
    rfl
  constructor
  · rw [hwrite.event]
    refine .single ⟨hfindHold, hwrite.posting⟩ ?_ hwrite.grants hwrite.agents
    rw [ledger_audit, ledger_updateTransactions, ledger_status _ hhold, hwrite.books]
    rfl
  · rw [orders_audit, orders_updateTransactions, orders_columns _ horder, hwrite.orders]

theorem oneOrNone_eq_ok {α : Type} {rows : List α} {row : Option α} :
    oneOrNone rows = .ok row ↔ rows = row.toList := by
  rw [← scalarOneOrNone_eq_ok, oneOrNone, mapError_eq_ok]

theorem withOperation_eq_some {s : Store} {rows : List Transaction} {tx : Transaction}
    {op : FinancialOperation} :
    withOperation s rows = .ok (some (tx, op)) ↔
      rows = [tx] ∧ s.operations.find? tx.operationId = some op := by
  unfold withOperation
  constructor
  · intro h
    obtain ⟨row, hrow, h⟩ := bind_eq_ok.mp h
    cases row with
    | none => cases h
    | some tx' =>
      obtain ⟨op', hop, he⟩ := Option.map_eq_some_iff.mp (Except.ok.inj h)
      cases he
      exact ⟨oneOrNone_eq_ok.mp hrow, hop⟩
  · rintro ⟨rfl, hop⟩
    rw [show oneOrNone [tx] = .ok (some tx) from rfl]
    simp [bind, Except.bind, pure, Except.pure, hop]

/-- The references a delivery resolved: a text id, one transaction, its operation. -/
structure Resolved (env : Platform) (s : Store) (reference : Json) (rows : String → List Transaction)
    (id : String) (tx : Transaction) (op : FinancialOperation) : Prop where
  truthy : reference.truthy = true
  text : env.bindText reference = .ok id
  unique : rows id = [tx]
  found : s.operations.find? tx.operationId = some op

theorem Resolved.self {env : Platform} {s : Store} {reference : Json}
    {rows : String → List Transaction} {id : String} {tx : Transaction} {op : FinancialOperation}
    (h : Resolved env s reference rows id tx op) : s.operations.find? op.id = some op :=
  Table.find?_of_mem (Table.mem_of_find? h.found)

theorem queryText_eq_ok {env : Platform} {value : Json} {text : String} :
    queryText env value = .ok text ↔ env.bindText value = .ok text := mapError_eq_ok

/-- A handler that gets past its queries has resolved the reference. -/
theorem resolved_of_queries {env : Platform} {s : Store} {reference : Json}
    {rows : String → List Transaction} {id : String} {tx : Transaction} {op : FinancialOperation}
    (htruthy : ¬ (!reference.truthy) = true) (htext : queryText env reference = .ok id)
    (hrow : withOperation s (rows id) = .ok (some (tx, op))) :
    Resolved env s reference rows id tx op := by
  obtain ⟨hunique, hfound⟩ := withOperation_eq_some.mp hrow
  exact ⟨by simpa using htruthy, queryText_eq_ok.mp htext, hunique, hfound⟩

/-- **`_handle_payment_captured_event`.** -/
theorem handlePaymentCapturedEvent_spec {env : Platform} {payload : Json} {eventType : String}
    {s : Store} {done : Store × List Event}
    (h : handlePaymentCapturedEvent env payload eventType s = .ok done) :
    done = (s, []) ∨
      ∃ refs orderId tx op gatewayPaymentId, capturedReferences payload = .ok refs ∧
        Resolved env s refs.1 s.transactionsByOrder orderId tx op ∧ op.status.inFlight = true ∧
        capturedPaymentId env refs.2 tx = .ok gatewayPaymentId ∧
        done = capture op eventType orderId gatewayPaymentId s := by
  obtain ⟨⟨orderRef, paymentRef⟩, hrefs, h⟩ := bind_eq_ok.mp h
  dsimp only at h
  split at h
  · exact .inl (Except.ok.inj h).symm
  · rename_i htruthy
    obtain ⟨orderId, htext, h⟩ := bind_eq_ok.mp h
    obtain ⟨row, hrow, h⟩ := bind_eq_ok.mp h
    split at h
    · exact .inl (Except.ok.inj h).symm
    · rename_i tx op
      split at h
      · exact .inl (Except.ok.inj h).symm
      · rename_i hne
        obtain ⟨_, hvalid, h⟩ := bind_eq_ok.mp h
        obtain ⟨gatewayPaymentId, hpid, h⟩ := bind_eq_ok.mp h
        rw [mapError_eq_ok, StateMachine.validateTransition_eq_ok,
          StateMachine.canTransition_succeeded] at hvalid
        have hflight : op.status.inFlight = true := hvalid.resolve_right hne
        exact .inr ⟨(orderRef, paymentRef), orderId, tx, op, gatewayPaymentId, hrefs,
          resolved_of_queries htruthy htext hrow, hflight, hpid, (Except.ok.inj h).symm⟩

/-- **`_handle_payment_failed_event`.** -/
theorem handlePaymentFailedEvent_spec {env : Platform} {payload : Json} {eventType : String}
    {s : Store} {done : Store × List Event}
    (h : handlePaymentFailedEvent env payload eventType s = .ok done) :
    done = (s, []) ∨
      ∃ refs orderId tx op errorMessage, failedReferences payload = .ok refs ∧
        Resolved env s refs.2 s.transactionsByOrder orderId tx op ∧ op.status.inFlight = true ∧
        failureMessage env refs.1 = .ok errorMessage ∧
        done = failPayment op eventType orderId errorMessage s := by
  obtain ⟨⟨paymentEntity, orderRef⟩, hrefs, h⟩ := bind_eq_ok.mp h
  dsimp only at h
  split at h
  · exact .inl (Except.ok.inj h).symm
  · rename_i htruthy
    obtain ⟨orderId, htext, h⟩ := bind_eq_ok.mp h
    obtain ⟨row, hrow, h⟩ := bind_eq_ok.mp h
    split at h
    · exact .inl (Except.ok.inj h).symm
    · rename_i tx op
      split at h
      · exact .inl (Except.ok.inj h).symm
      · rename_i hflight
        obtain ⟨errorMessage, hmessage, h⟩ := bind_eq_ok.mp h
        exact .inr ⟨(paymentEntity, orderRef), orderId, tx, op, errorMessage, hrefs,
          resolved_of_queries htruthy htext hrow, by simpa using hflight, hmessage,
          (Except.ok.inj h).symm⟩

/-- **`_handle_refund_processed_event`.** -/
theorem handleRefundProcessedEvent_spec {env : Platform} {payload : Json} {s : Store}
    {done : Store × List Event} (h : handleRefundProcessedEvent env payload s = .ok done) :
    done = (s, []) ∨
      ∃ refs paymentId tx op mandate committed, refundReferences payload = .ok refs ∧
        Resolved env s refs.1 s.transactionsByPayment paymentId tx op ∧
        s.mandates.find? op.mandateId = some mandate ∧
        env.minus mandate.currentAggregateSpend refs.2 = .ok committed ∧
        done = (s.updateMandate mandate.id (Mandate.withCommitted committed),
          [.credited mandate.id (mandate.currentAggregateSpend - committed)]) := by
  obtain ⟨⟨paymentRef, amount⟩, hrefs, h⟩ := bind_eq_ok.mp h
  dsimp only at h
  split at h
  · exact .inl (Except.ok.inj h).symm
  · rename_i htruthy
    obtain ⟨paymentId, htext, h⟩ := bind_eq_ok.mp h
    obtain ⟨row, hrow, h⟩ := bind_eq_ok.mp h
    split at h
    · exact .inl (Except.ok.inj h).symm
    · rename_i tx op
      split at h
      · exact .inl (Except.ok.inj h).symm
      · rename_i mandate hmandate
        obtain ⟨committed, hminus, h⟩ := bind_eq_ok.mp h
        exact .inr ⟨(paymentRef, amount), paymentId, tx, op, mandate, committed, hrefs,
          resolved_of_queries htruthy htext hrow, hmandate, mapError_eq_ok.mp hminus,
          (Except.ok.inj h).symm⟩

/-- What processing an event of a given type did: nothing, or the writes of one of the three
domain handlers. -/
inductive Processed (env : Platform) (eventData : Json) (s : Store) : Json → Store × List Event → Prop
  | ignored (eventType : Json) : Processed env eventData s eventType (s, [])
  | captured {eventType : String} {payload : Json} {refs : Json × Json} {orderId : String}
      {tx : Transaction} {op : FinancialOperation} {gatewayPaymentId : Option String}
      (htype : eventType = "order.paid" ∨ eventType = "payment.captured")
      (hpayload : eventData.get "payload" (.obj []) = .ok payload)
      (hrefs : capturedReferences payload = .ok refs)
      (hresolved : Resolved env s refs.1 s.transactionsByOrder orderId tx op)
      (hflight : op.status.inFlight = true)
      (hpayment : capturedPaymentId env refs.2 tx = .ok gatewayPaymentId) :
      Processed env eventData s (.str eventType) (capture op eventType orderId gatewayPaymentId s)
  | failed {eventType : String} {payload : Json} {refs : Json × Json} {orderId : String}
      {tx : Transaction} {op : FinancialOperation} {errorMessage : Option String}
      (htype : eventType = "payment.failed")
      (hpayload : eventData.get "payload" (.obj []) = .ok payload)
      (hrefs : failedReferences payload = .ok refs)
      (hresolved : Resolved env s refs.2 s.transactionsByOrder orderId tx op)
      (hflight : op.status.inFlight = true)
      (hmessage : failureMessage env refs.1 = .ok errorMessage) :
      Processed env eventData s (.str eventType) (failPayment op eventType orderId errorMessage s)
  | refunded {payload : Json} {refs : Json × Json} {paymentId : String} {tx : Transaction}
      {op : FinancialOperation} {mandate : Mandate} {committed : ℤ}
      (hpayload : eventData.get "payload" (.obj []) = .ok payload)
      (hrefs : refundReferences payload = .ok refs)
      (hresolved : Resolved env s refs.1 s.transactionsByPayment paymentId tx op)
      (hmandate : s.mandates.find? op.mandateId = some mandate)
      (hminus : env.minus mandate.currentAggregateSpend refs.2 = .ok committed) :
      Processed env eventData s (.str "refund.processed")
        (s.updateMandate mandate.id (Mandate.withCommitted committed),
          [.credited mandate.id (mandate.currentAggregateSpend - committed)])

/-- **`_process_domain_webhook_event`.** -/
theorem processDomainWebhookEvent_spec {env : Platform} {eventType eventData : Json} {s : Store}
    {done : Store × List Event}
    (h : processDomainWebhookEvent env eventType eventData s = .ok done) :
    Processed env eventData s eventType done := by
  obtain ⟨payload, hpayload, hdone⟩ := bind_eq_ok.mp h
  rw [getValue, mapError_eq_ok] at hpayload
  clear h
  revert hdone
  split <;> intro h
  · split at h
    · rename_i htype
      rcases handlePaymentCapturedEvent_spec h with rfl | ⟨_, _, _, _, _, hrefs, hres, hflight, hpid, rfl⟩
      · exact .ignored _
      · exact .captured htype hpayload hrefs hres hflight hpid
    · split at h
      · rename_i htype
        rcases handlePaymentFailedEvent_spec h with rfl | ⟨_, _, _, _, _, hrefs, hres, hflight, hmsg, rfl⟩
        · exact .ignored _
        · exact .failed htype hpayload hrefs hres hflight hmsg
      · split at h
        · rename_i htype
          subst htype
          rcases handleRefundProcessedEvent_spec h with
            rfl | ⟨_, _, _, _, _, _, hrefs, hres, hmandate, hminus, rfl⟩
          · exact .ignored _
          · exact .refunded hpayload hrefs hres hmandate hminus
        · cases h
          exact .ignored _
  · cases h
    exact .ignored _

theorem Processed.explained {env : Platform} {eventData eventType : Json} {s : Store}
    {done : Store × List Event} (h : Processed env eventData s eventType done) :
    Explained s done.2 done.1 ∧ orders done.1 = orders s := by
  cases h with
  | ignored => exact ⟨.refl s, rfl⟩
  | captured _ _ _ hres hflight =>
    obtain ⟨dReserved, dCommitted, hwrite⟩ := captureBudget_write hflight
    exact settlement_explained hres.self hwrite (fun _ => rfl) fun _ => rfl
  | failed _ _ _ hres hflight =>
    obtain ⟨dReserved, dCommitted, hwrite⟩ := failureBudget_write hflight
    exact settlement_explained hres.self hwrite (fun _ => rfl) fun _ => rfl
  | @refunded _ _ _ _ op mandate _ _ _ _ hmandate =>
    have hkey : mandate.id = op.mandateId := Table.key_of_find? hmandate
    have hfind : s.mandates.find? mandate.id = some mandate := hkey ▸ hmandate
    refine ⟨.single ⟨mandateAccount mandate, ?_⟩ (ledger_withCommitted _ _ _ hfind)
      (grants_withCommitted _ _ _ _) rfl, orders_updateMandate _ _ _ _⟩
    rw [accounts_find?, hfind]
    rfl

/-- The store with other webhook records. -/
def withRecords (s : Store) (records : Table WebhookEvent) : Store :=
  { s with webhookEvents := records }

/-- A delivery that reached processing: signed, decoded, and not processed before under its id. -/
structure Accepted (env : Platform) (settings : Settings) (delivery : WebhookDelivery) (s : Store)
    (eventData eventType : Json) (eventId : String) : Prop where
  signed : verifyDelivery env settings delivery = .ok ()
  body : env.jsonLoads delivery.rawBody = some eventData
  id : ∃ givenId, eventData.get "event_id" .null = .ok givenId ∧
    env.bindText (givenId.orElse (.str delivery.freshEventId)) = .ok eventId
  type : eventData.get "event" (.str "unknown") = .ok eventType
  unprocessed : ∀ record, s.webhookEvents.find? eventId = some record → record.status ≠ "PROCESSED"

/-- What a delivery the pipeline answered did: nothing but bookkeeping, or the event's domain
handler between two pieces of bookkeeping. -/
inductive Delivered (env : Platform) (settings : Settings) (delivery : WebhookDelivery) (s : Store) :
    List Event → Store → Prop
  | recorded (records : Table WebhookEvent) :
      Delivered env settings delivery s [] (withRecords s records)
  | processed {eventData eventType : Json} {eventId : String} {records : Table WebhookEvent}
      {done : Store × List Event}
      (haccepted : Accepted env settings delivery s eventData eventType eventId)
      (hdone : Processed env eventData (withRecords s records) eventType done)
      (records' : Table WebhookEvent) :
      Delivered env settings delivery s done.2 (withRecords done.1 records')

theorem captureBudget_transactions (op : FinancialOperation) (s : Store) :
    (captureBudget op s).1.transactions = s.transactions := by
  unfold captureBudget
  split
  · rfl
  · split <;> rfl

theorem failureBudget_transactions (op : FinancialOperation) (s : Store) :
    (failureBudget op s).1.transactions = s.transactions := by
  unfold failureBudget
  split
  · rfl
  · split <;> rfl

theorem capture_links (op : FinancialOperation) (eventType orderId : String)
    (gatewayPaymentId : Option String) (s : Store) :
    links (capture op eventType orderId gatewayPaymentId s).1 = links s := by
  refine Eq.trans (links_updateTransactions _ ?_) ?_
  · exact fun _ => rfl
  · exact congrArg (List.map linkOf) (captureBudget_transactions op s)

theorem failPayment_links (op : FinancialOperation) (eventType orderId : String)
    (errorMessage : Option String) (s : Store) :
    links (failPayment op eventType orderId errorMessage s).1 = links s := by
  refine Eq.trans (links_updateTransactions _ ?_) ?_
  · exact fun _ => rfl
  · exact congrArg (List.map linkOf) (failureBudget_transactions op s)

theorem Delivered.links {env : Platform} {settings : Settings} {delivery : WebhookDelivery}
    {s s' : Store} {events : List Event} (h : Delivered env settings delivery s events s') :
    links s' = LedgerView.links s := by
  cases h with
  | recorded => rfl
  | processed _ hdone _ =>
    cases hdone with
    | ignored => rfl
    | refunded _ _ _ _ _ => rfl
    | @captured eventType _ _ orderId _ op gatewayPaymentId _ _ _ _ _ _ =>
      exact capture_links op eventType orderId gatewayPaymentId _
    | @failed eventType _ _ orderId _ op errorMessage _ _ _ _ _ _ =>
      exact failPayment_links op eventType orderId errorMessage _

/-- The record a delivery is processed under. -/
theorem recordDelivery_spec {env : Platform} {delivery : WebhookDelivery} {eventId : String}
    {eventType eventData : Json} {s : Store} {recorded : WebhookEvent × Store}
    (h : recordDelivery env delivery eventId eventType eventData s = .ok recorded) :
    ∃ records, recorded.2 = withRecords s records := by
  unfold recordDelivery at h
  split at h
  · cases h
    exact ⟨_, rfl⟩
  · obtain ⟨_, -, h⟩ := bind_eq_ok.mp h
    obtain ⟨records, -, h⟩ := bind_eq_ok.mp h
    cases h
    exact ⟨records, rfl⟩

/-- **`POST /webhooks/razorpay`.** -/
theorem handleRazorpayWebhook_spec {env : Platform} {settings : Settings}
    {delivery : WebhookDelivery} {s : Store} {c : Committed WebhookAnswer}
    (h : handleRazorpayWebhook env settings delivery s = .ok c) :
    Delivered env settings delivery s c.events c.store := by
  obtain ⟨_, hsigned, h⟩ := bind_eq_ok.mp h
  obtain ⟨eventData, hbody, h⟩ := bind_eq_ok.mp h
  obtain ⟨givenId, hgiven, h⟩ := bind_eq_ok.mp h
  obtain ⟨eventId, hid, h⟩ := bind_eq_ok.mp h
  obtain ⟨eventType, htype, h⟩ := bind_eq_ok.mp h
  rw [orRefuse_eq_ok] at hbody
  split at h
  · cases h
    exact .recorded s.webhookEvents
  · rename_i hunprocessed
    obtain ⟨⟨record, s₁⟩, hrecord, h⟩ := bind_eq_ok.mp h
    obtain ⟨records, hs₁⟩ := recordDelivery_spec hrecord
    dsimp only at h hs₁
    subst hs₁
    have haccepted : Accepted env settings delivery s eventData eventType eventId := by
      refine ⟨hsigned, hbody, ⟨givenId, mapError_eq_ok.mp hgiven, mapError_eq_ok.mp hid⟩,
        mapError_eq_ok.mp htype, fun record hfind hstatus => hunprocessed ?_⟩
      rw [hfind, Option.any_some, hstatus, decide_eq_true_eq]
    unfold settleDelivery at h
    split at h
    · rename_i s₂ events hdone
      cases h
      exact .processed haccepted (processDomainWebhookEvent_spec hdone) _
    · cases h
      exact .recorded _
    · cases h

theorem Delivered.explained {env : Platform} {settings : Settings} {delivery : WebhookDelivery}
    {s s' : Store} {events : List Event} (h : Delivered env settings delivery s events s') :
    Explained s events s' ∧ orders s' = orders s := by
  cases h with
  | recorded records => exact ⟨.quiet rfl rfl rfl, rfl⟩
  | processed haccepted hdone records' =>
    obtain ⟨hexp, hord⟩ := hdone.explained
    exact ⟨⟨hexp.books, hexp.ruled, hexp.grants, hexp.agents⟩, hord⟩

end Webhooks

/-! ### Sweeps -/

section Sweeps

open ReconciliationWorker

theorem releaseStuck_explained {op : FinancialOperation} {message reason : String} {s : Store}
    (hfind : (ledger s).holds.find? op.id = some (operationHold op))
    (hflight : op.status.inFlight = true) :
    Explained s (releaseStuck op message reason s).2 (releaseStuck op message reason s).1 ∧
      orders (releaseStuck op message reason s).1 = orders s := by
  constructor
  · refine .single ⟨hfind, .release hflight⟩ ?_ (by simp [releaseStuck]) rfl
    simp only [releaseStuck, ledger_audit, ledger_release, ledger_moveToWith]
    rfl
  · simp [releaseStuck]

theorem commitStuck_explained {op : FinancialOperation} {orderId : String} {s : Store}
    (hfind : (ledger s).holds.find? op.id = some (operationHold op))
    (hflight : op.status.inFlight = true) :
    Explained s (commitStuck op orderId s).2 (commitStuck op orderId s).1 ∧
      orders (commitStuck op orderId s).1 = orders s := by
  constructor
  · refine .single ⟨hfind, .commit hflight⟩ ?_ (by simp [commitStuck]) rfl
    simp only [commitStuck, ledger_audit, ledger_commitReserved, ledger_updateTransactions,
      ledger_moveTo]
    rfl
  · simp [commitStuck]

/-- What one round of a sweep can do. -/
theorem reconcileOperation_spec {inputs : SweepInputs} {op : FinancialOperation} {s : Store}
    {done : Store × List Event} (h : reconcileOperation inputs op s = .ok done) :
    done = (s, []) ∨ (∃ message reason, done = releaseStuck op message reason s) ∨
      ∃ orderId, done = commitStuck op orderId s := by
  unfold reconcileOperation at h
  split at h
  · exact .inl (Except.ok.inj h).symm
  · obtain ⟨tx, -, h⟩ := bind_eq_ok.mp h
    split at h
    · exact .inr (.inl ⟨_, _, (Except.ok.inj h).symm⟩)
    · split at h
      · exact .inl (Except.ok.inj h).symm
      · rename_i orderId _
        split at h
        · exact .inl (Except.ok.inj h).symm
        · split at h
          · exact .inl (Except.ok.inj h).symm
          · split at h
            · exact .inr (.inr ⟨orderId, (Except.ok.inj h).symm⟩)
            · split at h
              · exact .inr (.inl ⟨_, _, (Except.ok.inj h).symm⟩)
              · exact .inl (Except.ok.inj h).symm

/-- A status write of a sweep. -/
def SweptEvent (op : FinancialOperation) (e : Event) : Prop :=
  e = .posted op .failed (-op.amount) 0 ∨ e = .posted op .succeeded (-op.amount) op.amount

theorem reconcileOperations_links {inputs : SweepInputs} {ops : List FinancialOperation}
    {s : Store} {done : Store × List Event} (h : reconcileOperations inputs ops s = .ok done) :
    links done.1 = links s := by
  induction ops generalizing s done with
  | nil =>
    cases h
    rfl
  | cons op ops ih =>
    obtain ⟨first, hfirst, h⟩ := bind_eq_ok.mp h
    obtain ⟨rest, hrest, h⟩ := bind_eq_ok.mp h
    cases h
    refine (ih hrest).trans ?_
    rcases reconcileOperation_spec hfirst with rfl | ⟨message, reason, rfl⟩ | ⟨orderId, rfl⟩
    · rfl
    · rfl
    · refine Eq.trans (links_updateTransactions _ ?_) rfl
      exact fun _ => rfl

theorem reconcileOperations_events {inputs : SweepInputs} {ops : List FinancialOperation}
    {s : Store} {done : Store × List Event} (h : reconcileOperations inputs ops s = .ok done) :
    ∀ e ∈ done.2, ∃ op ∈ ops, SweptEvent op e := by
  induction ops generalizing s done with
  | nil =>
    cases h
    intro e he
    cases he
  | cons op ops ih =>
    obtain ⟨first, hfirst, h⟩ := bind_eq_ok.mp h
    obtain ⟨rest, hrest, h⟩ := bind_eq_ok.mp h
    cases h
    intro e he
    rcases List.mem_append.mp he with he | he
    · refine ⟨op, List.mem_cons_self, ?_⟩
      rcases reconcileOperation_spec hfirst with rfl | ⟨message, reason, rfl⟩ | ⟨orderId, rfl⟩
      · cases he
      · exact .inl (List.mem_singleton.mp he)
      · exact .inr (List.mem_singleton.mp he)
    · obtain ⟨op', hm, he⟩ := ih hrest e he
      exact ⟨op', List.mem_cons_of_mem _ hm, he⟩

/-- One round explains itself and leaves every other operation's hold alone. -/
theorem reconcileOperation_explained {inputs : SweepInputs} {op : FinancialOperation} {s : Store}
    {done : Store × List Event} (h : reconcileOperation inputs op s = .ok done)
    (hfind : (ledger s).holds.find? op.id = some (operationHold op))
    (hflight : op.status.inFlight = true) :
    Explained s done.2 done.1 ∧ orders done.1 = orders s ∧
      ∀ id, id ≠ op.id → (ledger done.1).holds.find? id = (ledger s).holds.find? id := by
  have hother {target : OperationStatus} {dReserved dCommitted : ℤ} {s' : Store}
      (hexp : Explained s [.posted op target dReserved dCommitted] s') (id : String)
      (hne : id ≠ op.id) : (ledger s').holds.find? id = (ledger s).holds.find? id := by
    rw [hexp.books]
    show ((ledger s).holds.modify op.id (Hold.moveTo target)).find? id = _
    rw [Table.find?_modify_of_ne _ _ _ hne]
  rcases reconcileOperation_spec h with rfl | ⟨message, reason, rfl⟩ | ⟨orderId, rfl⟩
  · exact ⟨.refl s, rfl, fun _ _ => rfl⟩
  · obtain ⟨hexp, hord⟩ := releaseStuck_explained hfind hflight
    exact ⟨hexp, hord, hother hexp⟩
  · obtain ⟨hexp, hord⟩ := commitStuck_explained hfind hflight
    exact ⟨hexp, hord, hother hexp⟩

/-- The loop, over operations that are in flight in the store and pairwise different. -/
theorem reconcileOperations_explained {inputs : SweepInputs} {ops : List FinancialOperation}
    {s : Store} {done : Store × List Event} (h : reconcileOperations inputs ops s = .ok done)
    (hnodup : (ops.map FinancialOperation.id).Nodup)
    (hops : ∀ op ∈ ops, (ledger s).holds.find? op.id = some (operationHold op) ∧
      op.status.inFlight = true) :
    Explained s done.2 done.1 ∧ orders done.1 = orders s := by
  induction ops generalizing s done with
  | nil =>
    cases h
    exact ⟨.refl s, rfl⟩
  | cons op ops ih =>
    obtain ⟨first, hfirst, h⟩ := bind_eq_ok.mp h
    obtain ⟨rest, hrest, h⟩ := bind_eq_ok.mp h
    cases h
    rw [List.map_cons, List.nodup_cons] at hnodup
    obtain ⟨hfind, hflight⟩ := hops op List.mem_cons_self
    obtain ⟨hexp, hord, hother⟩ := reconcileOperation_explained hfirst hfind hflight
    have hops' : ∀ op' ∈ ops, (ledger first.1).holds.find? op'.id = some (operationHold op') ∧
        op'.status.inFlight = true := by
      intro op' hm
      obtain ⟨hfind', hflight'⟩ := hops op' (List.mem_cons_of_mem _ hm)
      have hne : op'.id ≠ op.id := fun he => hnodup.1 (he ▸ List.mem_map_of_mem hm)
      exact ⟨(hother _ hne).trans hfind', hflight'⟩
    obtain ⟨hexp', hord'⟩ := ih hrest hnodup.2 hops'
    exact ⟨hexp.trans hexp', hord'.trans hord⟩

/-- **A reconciliation sweep.** -/
theorem reconcileStuckReservations_spec {inputs : SweepInputs} {s : Store}
    {c : Committed ℕ} (h : reconcileStuckReservations inputs s = .ok c) :
    Explained s c.events c.store ∧ orders c.store = orders s ∧ links c.store = links s ∧
      ∀ e ∈ c.events, ∃ op ∈ stuckOperations inputs s, SweptEvent op e := by
  obtain ⟨swept, hswept, h⟩ := bind_eq_ok.mp h
  cases h
  have hops : ∀ op ∈ stuckOperations inputs s,
      (ledger s).holds.find? op.id = some (operationHold op) ∧ op.status.inFlight = true := by
    intro op hm
    obtain ⟨hm, hsel⟩ := List.mem_filter.mp hm
    rw [holds_find?, show s.operations.find? op.id = some op from Table.find?_of_mem hm]
    exact ⟨rfl, (Bool.and_eq_true_iff.mp hsel).1⟩
  have hnodup : ((stuckOperations inputs s).map FinancialOperation.id).Nodup :=
    (List.Sublist.map _ List.filter_sublist).nodup s.operations.nodup
  obtain ⟨hexp, hord⟩ := reconcileOperations_explained hswept hnodup hops
  exact ⟨hexp, hord, reconcileOperations_links hswept, reconcileOperations_events hswept⟩

end Sweeps

end MandatePlane.HandlerPostings

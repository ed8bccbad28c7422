import MandatePlane.AuthenticatedEntry

/-!
# What the gateway reports of an operation

The answer to a mutating tool call should report the decision that is recorded with the
operation, speak of success only where the gateway was called and the operation is under
way or done, and name an order of that operation.  The answer distinguishes DENY from
everything else; the pipeline distinguishes more.
-/

namespace MandatePlane.ToolReplies

open DomainModel KeyedTable JsonValue HostEnvironment CallerAuth PolicyEngine RazorpayClient
open OperationRoutes HandlerPostings AgentChat McpCatalog McpGateway EntryPoints
open AuthenticatedEntry PolicyDryRun

/-! ### What a result says -/

/-- `policy_decision`. -/
def reportedDecision : RpcResult → Option PolicyDecisionType
  | .denied _ _ _ => some .deny
  | .executed _ _ _ _ _ => some .allow
  | _ => none

/-- Whether the text says that the tool was executed successfully. -/
def claimsExecuted : RpcResult → Bool
  | .executed _ _ _ _ _ => true
  | _ => false

/-- `gateway_order.id`. -/
def reportedOrder : RpcResult → Option String
  | .executed _ _ _ gatewayOrderId _ => some gatewayOrderId
  | _ => none

/-- **Faithful**: what the result says of the operation is so. -/
structure Faithful (op : FinancialOperation) (events : List Event) (s : Store)
    (result : RpcResult) : Prop where
  decision : reportedDecision result =
    op.policyEvaluationDetails.map PolicyEvaluationResult.decision
  executed : claimsExecuted result = true →
    (∃ row call, Event.gatewayCall row call ∈ events ∧ row.id = op.id) ∧
      (op.status = .executing ∨ op.status = .succeeded)
  order : ∀ id, reportedOrder result = some id →
    ∃ tx ∈ s.transactionsOf op.id, tx.gatewayOrderId = some id

/-- The answer is a result, and a faithful one. -/
def Reported (op : FinancialOperation) (events : List Event) (s : Store)
    (answer : Except RpcError RpcResult) : Prop :=
  ∃ result, answer = .ok result ∧ Faithful op events s result

section Descriptions

variable {host : Rendering} {toolName : Json} (op : FinancialOperation) {s : Store}
  {details : PolicyEvaluationResult} {events : List Event}

/-- A denial is reported as it is. -/
theorem reported_of_deny (hdetails : op.policyEvaluationDetails = some details)
    (hdeny : details.decision = .deny) :
    Reported op events s (describeOperation host toolName op s) := by
  refine ⟨.denied ("Mandate Policy DENIED: " ++ op.errorMessage.getD "None") op.operationId
    details.rejectionReasons, ?_, ?_, nofun, nofun⟩
  · simp only [describeOperation, hdetails, hdeny, if_true]
  · rw [hdetails]
    exact congrArg some hdeny.symm

/-- What the answer makes of everything else. -/
theorem reported_iff (hdetails : op.policyEvaluationDetails = some details)
    (hdeny : details.decision ≠ .deny) (tx : Option Transaction)
    (htx : s.transactionsOf op.id = tx.toList) :
    Reported op events s (describeOperation host toolName op s) ↔
      details.decision = .allow ∧
        ((∃ row call, Event.gatewayCall row call ∈ events ∧ row.id = op.id) ∧
          (op.status = .executing ∨ op.status = .succeeded)) ∧
        ∃ placed ∈ tx, placed.gatewayOrderId =
          some ((truthyId placed.gatewayOrderId).getD s!"order_{op.operationId}") := by
  have hanswer : describeOperation host toolName op s = .ok (.executed
      (s!"Executed {host.text toolName} successfully. " ++
        s!"Operation ID: {op.operationId}, Status: {op.status.value}")
      op.status op.operationId
      ((truthyId (tx.bind Transaction.gatewayOrderId)).getD s!"order_{op.operationId}")
      op.amount) := by
    simp only [describeOperation, hdetails, hdeny, if_false, scalarOneOrFail_eq_ok.mpr htx]
  rw [hanswer]
  constructor
  · intro ⟨result, hresult, hfaithful⟩
    cases hresult
    obtain ⟨hdecision, hexecuted, horder⟩ := hfaithful
    rw [hdetails] at hdecision
    obtain ⟨placed, hplaced, hid⟩ := horder _ rfl
    rw [htx, Option.mem_toList] at hplaced
    rw [Option.mem_def.mp hplaced] at hid
    exact ⟨(Option.some.inj hdecision).symm, hexecuted rfl, placed, hplaced, hid⟩
  · intro ⟨hallow, hexecuted, placed, hplaced, hid⟩
    refine ⟨_, rfl, ?_, fun _ => hexecuted, ?_⟩
    · rw [hdetails]
      exact congrArg some hallow.symm
    · intro id horder
      refine ⟨placed, ?_, ?_⟩
      · rw [htx]
        exact Option.mem_toList.mpr hplaced
      · rw [← Option.some.inj horder, Option.mem_def.mp hplaced]
        exact hid

end Descriptions

/-! ### What the gateway did -/

/-- **An order was placed**: the operation is an order with a readable receipt, and the gateway
creates it under an id. -/
def OrderPlaced (env : Platform) (gateway : GatewayAnswers) (op : FinancialOperation)
    (payload : Dict) : Prop :=
  op.operationType = .createOrder ∧
    (∃ call, orderRequest env op.amount op.currency
      (dictGet payload "receipt"
        (.str s!"rcpt_{String.ofList (op.operationId.toList.take 10)}"))
      [("operation_id", op.operationId), ("agent_id", op.agentId)] = .ok call) ∧
    ∃ order, gateway.createOrder = .ok order ∧ order.id ≠ ""

section Execution

variable {env : Platform} {gateway : GatewayAnswers} {mandate : Mandate}
  {op : FinancialOperation} {payload : Dict} {s : Store}

/-- The id that the answer names is the transaction's exactly if that has one. -/
theorem names_order_iff {gatewayOrderId : Option String} (operationId : String) :
    gatewayOrderId = some ((truthyId gatewayOrderId).getD s!"order_{operationId}") ↔
      ∃ id, gatewayOrderId = some id ∧ id ≠ "" := by
  cases gatewayOrderId with
  | none => exact iff_of_false nofun (fun ⟨id, h, _⟩ => by cases h)
  | some id =>
    have hmadeUp : s!"order_{operationId}" ≠ "" := by
      show "order_" ++ operationId ≠ ""
      intro h
      have hlength := congrArg String.length h
      rw [String.length_append] at hlength
      have hprefix : "order_".length = 6 := rfl
      have hempty : "".length = 0 := rfl
      omega
    simp only [Option.some.injEq, exists_eq_left']
    by_cases h : id = ""
    · rw [h]
      exact iff_of_false (fun heq => hmadeUp heq.symm) (fun hne => hne rfl)
    · have hempty : id.isEmpty ≠ true := fun htrue => h (String.isEmpty_iff.mp htrue)
      have htruthy : truthyId (some id) = some id := if_neg hempty
      rw [htruthy]
      exact iff_of_true rfl h

/-- Only the branch of the orders leaves a transaction with an order's id. -/
theorem orderPlaced_iff :
    OrderPlaced env gateway op payload ↔
      ∃ dispatched tx, (attemptGateway env gateway op payload).2 = .ok dispatched ∧
        (dispatched = .executing tx ∨ dispatched = .settled tx) ∧
        ∃ id, tx.gatewayOrderId = some id ∧ id ≠ "" := by
  constructor
  · intro ⟨htype, ⟨call, hcall⟩, order, hcreate, hid⟩
    unfold attemptGateway attemptOrder
    simp only [htype, hcall, hcreate]
    exact ⟨_, _, rfl, .inl rfl, order.id, rfl, hid⟩
  · intro ⟨dispatched, tx, hattempt, htx, id, horder, hid⟩
    have hend := attemptGateway_end hattempt
    generalize (attemptGateway env gateway op payload).1 = calls at hend
    cases hend with
    | @ordered call order tx' htype hcall hcreate _ hplaced =>
      rcases htx with htx | htx <;> cases htx
      rw [hplaced] at horder
      have hsame : order.id = id := Option.some.inj horder
      rw [← hsame] at hid
      exact ⟨htype, ⟨call, hcall⟩, order, hcreate, hid⟩
    | linked htype _ hnone =>
      rcases htx with htx | htx <;> cases htx
      rw [hnone] at horder
      cases horder
    | refunded htype _ hnone =>
      rcases htx with htx | htx <;> cases htx
      rw [hnone] at horder
      cases horder
    | aside => rcases htx with htx | htx <;> cases htx

/-- A transaction of an operation that had none is its only one. -/
theorem transactionsOf_added {id : String} {tx : Transaction} (hnone : s.transactionsOf id = [])
    (htx : tx.operationId = id) : (s.addTransaction tx).transactionsOf id = [tx] := by
  show (s.transactions ++ [tx]).filter _ = [tx]
  rw [List.filter_append]
  show s.transactionsOf id ++ _ = _
  rw [hnone, List.nil_append, List.filter_cons_of_pos (by simp [htx]), List.filter_nil]

variable (op) in
/-- A dispatch that leaves a transaction is reported as it is exactly if that names an order. -/
theorem placed_reported_iff {host : Rendering} {toolName : Json} {details : PolicyEvaluationResult}
    {dispatched : Dispatched} {tx : Transaction} {events : List Event} {asked : FinancialOperation}
    (hdetails : op.policyEvaluationDetails = some details) (hallow : details.decision = .allow)
    (hstatus : op.status = .executing ∨ op.status = .succeeded)
    (htransactions : s.transactionsOf op.id = [tx]) (hid : asked.id = op.id)
    (hcalls : ∀ call ∈ (attemptGateway env gateway asked payload).1,
      Event.gatewayCall asked call ∈ events)
    (hattempt : (attemptGateway env gateway asked payload).2 = .ok dispatched)
    (htx : dispatched = .executing tx ∨ dispatched = .settled tx) :
    Reported op events s (describeOperation host toolName op s) ↔
      OrderPlaced env gateway asked payload := by
  have hdeny : details.decision ≠ .deny := by
    rw [hallow]
    decide
  rw [orderPlaced_iff, reported_iff op hdetails hdeny (some tx) htransactions]
  constructor
  · intro ⟨_, _, placed, hplaced, hnames⟩
    rw [← Option.some.inj hplaced] at hnames
    exact ⟨dispatched, tx, hattempt, htx, (names_order_iff op.operationId).mp hnames⟩
  · intro ⟨dispatched', tx', hattempt', htx', id, horder, hne⟩
    have hsame : dispatched = dispatched' := Except.ok.inj (hattempt.symm.trans hattempt')
    have htxs : tx' = tx := by
      rcases htx with htx | htx <;> rcases htx' with htx' | htx'
      all_goals rw [← hsame, htx] at htx'
      all_goals cases htx'
      all_goals rfl
    rw [htxs] at horder
    obtain ⟨-, hno | ⟨order, amount, currency, receipt, notes, -, -, hcall⟩⟩ :=
      attemptGateway_dispatched hattempt htx
    · rw [horder] at hno
      cases hno
    · refine ⟨hallow, ⟨⟨asked, .createOrder amount currency receipt notes, hcalls _ ?_, hid⟩,
        hstatus⟩, tx, rfl, (names_order_iff op.operationId).mpr ⟨id, horder, hne⟩⟩
      rw [hcall]
      exact List.mem_singleton_self _

variable (op) in
/-- A dispatch that leaves no transaction is not reported as it is. -/
theorem not_reported {host : Rendering} {toolName : Json} {details : PolicyEvaluationResult}
    {events : List Event} (hdetails : op.policyEvaluationDetails = some details)
    (hdeny : details.decision ≠ .deny) (hnone : s.transactionsOf op.id = []) :
    ¬ Reported op events s (describeOperation host toolName op s) := by
  rw [reported_iff op hdetails hdeny none hnone]
  intro ⟨_, _, placed, hplaced, _⟩
  cases hplaced

/-- **A dispatch is reported as it is exactly where it placed an order.** -/
theorem dispatch_reported_iff {host : Rendering} {toolName : Json}
    {details : PolicyEvaluationResult} (hdetails : op.policyEvaluationDetails = some details)
    (hallow : details.decision = .allow) (hnone : s.transactionsOf op.id = [])
    (before : List Event) {done : Committed FinancialOperation}
    (hdone : done = executeGatewayOperation env gateway mandate op payload s) :
    Reported done.value (before ++ done.events) done.store
        (describeOperation host toolName done.value done.store) ↔
      OrderPlaced env gateway op payload := by
  have hdeny : details.decision ≠ .deny := by
    rw [hallow]
    decide
  have hcalls : ∀ rest, ∀ call ∈ (attemptGateway env gateway op payload).1,
      Event.gatewayCall op call ∈
        before ++ ((attemptGateway env gateway op payload).1.map (Event.gatewayCall op) ++ rest) :=
    fun rest call hcall => List.mem_append_right before
      (List.mem_append_left rest (List.mem_map_of_mem hcall))
  have hfailed : ∀ refusal, (attemptGateway env gateway op payload).2 = .error refusal ∨
      (attemptGateway env gateway op payload).2 = .ok .notDispatched →
        ¬ OrderPlaced env gateway op payload := by
    intro refusal h hplaced
    obtain ⟨dispatched, tx, hattempt, htx, -⟩ := orderPlaced_iff.mp hplaced
    rw [hattempt] at h
    rcases h with h | h
    · cases h
    · rw [Except.ok.inj h] at htx
      rcases htx with htx | htx <;> cases htx
  rw [hdone]
  unfold executeGatewayOperation
  match hattempt : (attemptGateway env gateway op payload).2 with
  | .ok .notDispatched =>
    simp only [hattempt]
    exact iff_of_false (not_reported op hdetails hdeny hnone) (hfailed "" (.inr hattempt))
  | .ok (.executing tx) =>
    obtain ⟨htx, -⟩ := attemptGateway_dispatched hattempt (.inl rfl)
    simp only [hattempt]
    exact placed_reported_iff (op.moveTo .executing) hdetails hallow (.inl rfl)
      (transactionsOf_added hnone htx) rfl (hcalls _) hattempt (.inl rfl)
  | .ok (.settled tx) =>
    obtain ⟨htx, -⟩ := attemptGateway_dispatched hattempt (.inr rfl)
    simp only [hattempt]
    exact placed_reported_iff (op.moveTo .succeeded) hdetails hallow (.inr rfl)
      (transactionsOf_added hnone htx) rfl (hcalls _) hattempt (.inr rfl)
  | .error text =>
    simp only [hattempt]
    exact iff_of_false (not_reported (op.moveToWith .failed (some text)) hdetails hdeny hnone)
      (hfailed text (.inl hattempt))

end Execution

/-! ### What the pipeline did -/

/-- The mandate's limit still permits the amount. -/
def Room (mandate : Mandate) (amount : ℤ) : Prop :=
  mandate.currentAggregateSpend + mandate.reservedSpend + amount ≤ mandate.aggregateSpendLimit

/-- **Reportable**: the policy denies, or it allows and either the reservation is lost or an order
is placed.  Where a call runs to completion the policy denies what finds no room, so that no
reservation is lost; the case follows the branch of the source. -/
def Reportable (env : Platform) (gateway : GatewayAnswers) (mandate : Mandate)
    (op : FinancialOperation) (decision : PolicyDecisionType) : Prop :=
  decision = .deny ∨
    decision = .allow ∧ (¬ Room mandate op.amount ∨ OrderPlaced env gateway op op.payload)

section Pipeline

variable {env : Platform} {payload : OperationCreate} {inputs : RequestInputs} {mandate : Mandate}
  {op : FinancialOperation} {result : PolicyEvaluationResult} {s : Store}

/-- An update of a stored row stores what it makes of it. -/
theorem updateOperation_stored (h : s.operations.find? op.id = some op)
    (f : FinancialOperation → FinancialOperation)
    (hf : ∀ r, Keyed.key (f r) = Keyed.key r) :
    (s.updateOperation op.id f hf).operations.find? op.id = some (f op) := by
  show (s.operations.modify op.id f hf).find? op.id = _
  rw [Table.find?_modify_self, h]
  rfl

variable (op) in
/-- What a dispatch returns is the stored row. -/
theorem executeGatewayOperation_stored {gateway : GatewayAnswers} {fields : Dict}
    (h : s.operations.find? op.id = some op) :
    (executeGatewayOperation env gateway mandate op fields s).store.operations.find? op.id =
      some (executeGatewayOperation env gateway mandate op fields s).value := by
  unfold executeGatewayOperation
  match hattempt : (attemptGateway env gateway op fields).2 with
  | .ok .notDispatched =>
    simp only [hattempt]
    exact h
  | .ok (.executing tx) =>
    simp only [hattempt]
    exact updateOperation_stored h (.moveTo .executing) fun _ => key_kept rfl
  | .ok (.settled tx) =>
    simp only [hattempt]
    exact updateOperation_stored h (.moveTo .succeeded) fun _ => key_kept rfl
  | .error text =>
    simp only [hattempt]
    exact updateOperation_stored h (.moveToWith .failed (some text)) fun _ => key_kept rfl

/-- So is what the steps after the decision return. -/
theorem actOnDecision_stored (h : s.operations.find? op.id = some op) :
    (actOnDecision env payload inputs mandate op result s).store.operations.find? op.id =
      some (actOnDecision env payload inputs mandate op result s).value := by
  unfold actOnDecision
  cases result.decision with
  | deny =>
    exact updateOperation_stored h (.moveToWith .policyRejected (some _)) fun _ => key_kept rfl
  | requireHumanReview =>
    exact updateOperation_stored h (.moveToWith .requiresApproval (some _)) fun _ => key_kept rfl
  | allow =>
    cases hreserve : reserveBudget s mandate.id payload.amount with
    | none => exact updateOperation_stored h (lostReservation result) fun _ => key_kept rfl
    | some s₁ =>
      obtain ⟨rfl, -⟩ := reserveBudget_eq_some hreserve
      exact executeGatewayOperation_stored (op.moveTo .reserved)
        (updateOperation_stored h (.moveTo .reserved) fun _ => key_kept rfl)

/-- **The steps after the decision are reported as they are exactly where they are reportable.** -/
theorem actOnDecision_reported_iff {host : Rendering} {toolName : Json}
    (hdetails : op.policyEvaluationDetails = some result)
    (hmandate : s.mandates.find? mandate.id = some mandate)
    (hamount : payload.amount = op.amount) (hpayload : payload.payload = op.payload)
    (hnone : s.transactionsOf op.id = []) {done : Committed FinancialOperation}
    (hdone : done = actOnDecision env payload inputs mandate op result s) :
    Reported done.value done.events done.store
        (describeOperation host toolName done.value done.store) ↔
      Reportable env inputs.gateway mandate op result.decision := by
  rw [hdone]
  unfold actOnDecision Reportable
  cases hdecision : result.decision with
  | deny =>
    exact iff_of_true (reported_of_deny (op.moveToWith _ _) hdetails hdecision) (.inl rfl)
  | requireHumanReview =>
    have hdeny : result.decision ≠ .deny := by
      rw [hdecision]
      decide
    have hallow : result.decision ≠ .allow := by
      rw [hdecision]
      decide
    refine iff_of_false (fun h => hallow ?_) (by simp)
    dsimp only at h
    refine ((reported_iff _ ?_ hdeny none ?_).mp h).1
    · exact hdetails
    · exact hnone
  | allow =>
    simp only [reduceCtorEq, false_or, true_and]
    cases hreserve : reserveBudget s mandate.id payload.amount with
    | none =>
      have hroom : ¬ Room mandate op.amount := by
        intro hroom
        unfold reserveBudget at hreserve
        rw [hmandate, hamount] at hreserve
        simp only [Room] at hroom
        simp [hroom] at hreserve
      exact iff_of_true (reported_of_deny (lostReservation result op) rfl rfl) (.inl hroom)
    | some s₁ =>
      obtain ⟨rfl, m, hm, hroom⟩ := reserveBudget_eq_some hreserve
      have hsame : m = mandate := Option.some.inj (hm.symm.trans hmandate)
      rw [hsame, hamount] at hroom
      have hdispatch := @dispatch_reported_iff env inputs.gateway mandate (op.moveTo .reserved)
        payload.payload (((s.updateMandate mandate.id
          (Mandate.reserve payload.amount)).updateOperation op.id (.moveTo .reserved)).audit
            (reserveAudit mandate op)) host toolName result hdetails hdecision hnone
        [.opened op, .posted op .reserved op.amount 0] _ rfl
      rw [hpayload] at hdispatch ⊢
      have hplaced : OrderPlaced env inputs.gateway (op.moveTo .reserved) op.payload ↔
          OrderPlaced env inputs.gateway op op.payload := Iff.rfl
      have hor : OrderPlaced env inputs.gateway op op.payload ↔
          ¬ Room mandate op.amount ∨ OrderPlaced env inputs.gateway op op.payload :=
        (or_iff_right (not_not.mpr hroom)).symm
      exact hdispatch.trans (hplaced.trans hor)

/-- **A request that inserts its row** returns that row, and is reported as it is exactly where it
is reportable. -/
theorem request_reported {settings : Settings} {headers : CallerHeaders} {agent : Agent}
    (hadmitted : authenticateRequest env settings payload headers s.agents = .ok ())
    (hprocessable : Processable env s payload inputs)
    (hmandate : s.mandates.find? payload.mandateId = some mandate)
    (hagent : s.agents.find? payload.agentId = some agent)
    (hresult : evaluate env (requestEvaluation inputs) agent mandate
      (newOperation env payload inputs) = .ok result)
    (hnone : s.transactionsOf inputs.id = []) (host : Rendering) (toolName : Json) :
    ∃ done, requestFinancialOperation env settings payload headers inputs s = .ok done ∧
      done.store.operations.find? inputs.id = some done.value ∧
      (Reported done.value done.events done.store
          (describeOperation host toolName done.value done.store) ↔
        Reportable env inputs.gateway mandate (newOperation env payload inputs)
          result.decision) := by
  obtain ⟨s₁, hinserted⟩ := hprocessable.inserted
  obtain ⟨-, -, hfind, -, -, htransactions, hmandates⟩ :=
    LedgerView.ledger_insertOperation hinserted
  have hev : Evaluated env settings payload headers inputs s agent mandate s₁ result :=
    ⟨hadmitted, hprocessable.fresh, hagent, hmandate, hinserted, hresult⟩
  have hkey : mandate.id = payload.mandateId := Table.key_of_find? hmandate
  refine ⟨_, hev.returns, ?_, ?_⟩
  · exact actOnDecision_stored (updateOperation_stored hfind (withDetails result)
      fun _ => key_kept rfl)
  · refine @actOnDecision_reported_iff env payload inputs mandate
      (withDetails result (newOperation env payload inputs)) result _ host toolName rfl ?_ rfl rfl
      ?_ _ rfl
    · show s₁.mandates.find? mandate.id = some mandate
      rw [hmandates, hkey]
      exact hmandate
    · show s₁.transactions.filter _ = []
      rw [htransactions]
      exact hnone

end Pipeline

/-! ### The endpoint -/

section Endpoint

variable {env : Platform} {settings : Settings} {host : Rendering} {request : McpJsonRpcRequest}
  {headers : CallerHeaders} {inputs : McpInputs} {s : Store} {agent : Agent} {mandate : Mandate}
  {payload : OperationCreate}

/-- **The call becomes an operation**: it is a tool call of an authenticated agent with an ACTIVE
mandate, it makes an operation, and the pipeline lets the agent in and inserts the row. -/
structure Becomes (env : Platform) (settings : Settings) (host : Rendering)
    (request : McpJsonRpcRequest) (headers : CallerHeaders) (inputs : McpInputs) (s : Store)
    (agent : Agent) (mandate : Mandate) (payload : OperationCreate) : Prop where
  caller : authenticateAgentCaller env settings s.agents headers true = .ok (some agent)
  active : activeMandate agent s = some mandate
  method : request.method = "tools/call"
  routed : toolRequest host agent mandate (dictGet request.params "name" .null)
    (dictGet request.params "arguments" (.obj [])) inputs.hex = .ok (.ok (.operation payload))
  admitted : authenticateRequest env settings payload (gatewayHeaders agent) s.agents = .ok ()
  processable : Processable env s payload inputs.request

/-- **Replies are faithful**: what the gateway answers about an operation that the call has
created is so. -/
def RepliesFaithful (env : Platform) (settings : Settings) (host : Rendering)
    (request : McpJsonRpcRequest) (headers : CallerHeaders) (inputs : McpInputs) (s : Store) :
    Prop :=
  ∀ c op, handleMcpJsonrpcGateway env settings host request headers inputs s = .ok c →
    s.operations.find? inputs.request.id = none →
    c.store.operations.find? inputs.request.id = some op →
    Reported op c.events c.store c.value.answer

/-- The foreign key of the transactions. -/
def TransactionsOwned (s : Store) : Prop :=
  ∀ tx ∈ s.transactions, s.operations.find? tx.operationId ≠ none

theorem TransactionsOwned.none_of_new (h : TransactionsOwned s) {id : String}
    (hnew : s.operations.find? id = none) : s.transactionsOf id = [] := by
  refine List.filter_eq_nil_iff.mpr fun tx htx hid => h tx htx ?_
  rw [of_decide_eq_true hid]
  exact hnew

/-- The caller is stored. -/
theorem find?_of_authenticated {required : Bool}
    (h : authenticateAgentCaller env settings s.agents headers required = .ok (some agent)) :
    s.agents.find? agent.id = some agent := by
  have hmissing : authenticateAgentCaller.missing required ≠ .ok (some agent) := by
    cases required <;> exact nofun
  unfold authenticateAgentCaller at h
  split at h
  · split at h
    · cases h
    · rename_i found hfound
      have hstored : s.agents.find? found.id = some found :=
        Table.find?_of_mem (List.mem_of_find?_eq_some hfound)
      split at h
      · cases h
      · split at h
        · cases h
          exact hstored
        · split at h
          · cases h
          · cases h
            exact hstored
  · split at h
    · split at h
      · split at h
        · cases h
        · rename_i found hfound
          split at h
          · cases h
          · cases h
            have hkey : agent.id = _ := Table.key_of_find? hfound
            rw [hkey]
            exact hfound
      · exact absurd h hmissing
    · exact absurd h hmissing

/-- The caller's mandate is stored. -/
theorem find?_of_activeMandate (h : activeMandate agent s = some mandate) :
    s.mandates.find? mandate.id = some mandate :=
  Table.find?_of_mem (List.mem_of_mem_filter (List.mem_of_mem_filter (mem_of_newest h)))

/-- What the endpoint does with a call that becomes an operation. -/
theorem handle_of_becomes
    (h : Becomes env settings host request headers inputs s agent mandate payload)
    {done : Committed FinancialOperation}
    (hrun : requestFinancialOperation env settings payload (gatewayHeaders agent) inputs.request s =
      .ok done) :
    handleMcpJsonrpcGateway env settings host request headers inputs s =
      .ok ⟨⟨request.id, describeOperation host (dictGet request.params "name" .null) done.value
        done.store⟩, done.store, done.events⟩ := by
  have hmethod : handleMethod env settings host agent mandate request inputs s =
      dispatchMcpToolCall env settings host agent mandate (dictGet request.params "name" .null)
        (dictGet request.params "arguments" (.obj [])) inputs s := by
    unfold handleMethod
    rw [h.method]
    rfl
  unfold handleMcpJsonrpcGateway answerMcp
  simp only [h.caller, h.active, hmethod]
  unfold dispatchMcpToolCall
  simp only [h.routed, bind, Except.bind, fulfil, hrun]
  rfl

/-- **Where the store has changed, the call has become an operation.** -/
theorem becomes_of_changed {c : Committed McpJsonRpcResponse}
    (h : handleMcpJsonrpcGateway env settings host request headers inputs s = .ok c)
    (hchanged : c.store ≠ s) :
    ∃ agent mandate payload,
      Becomes env settings host request headers inputs s agent mandate payload := by
  obtain ⟨answered, hanswer, rfl⟩ := except_map_eq_ok h
  unfold answerMcp at hanswer
  split at hanswer
  · cases hanswer
    exact absurd rfl hchanged
  · cases hanswer
  · cases hanswer
    exact absurd rfl hchanged
  · rename_i agent hcaller
    split at hanswer
    · cases hanswer
      exact absurd rfl hchanged
    · rename_i mandate hactive
      unfold handleMethod at hanswer
      split_ifs at hanswer with hinitialize hlist hmethod
      · cases hanswer
        exact absurd rfl hchanged
      · cases hanswer
        exact absurd rfl hchanged
      · obtain ⟨routed, hrouted, hanswer⟩ := bind_eq_ok.mp hanswer
        cases routed with
        | error error =>
          cases hanswer
          exact absurd rfl hchanged
        | ok toolRequest =>
          rcases fulfil_cases hanswer with ⟨hsame, -⟩ | ⟨payload, done, rfl, hdone, hstore, -⟩
          · exact absurd hsame hchanged
          · obtain ⟨admitted, hadmitted, -⟩ := bind_eq_ok.mp hdone
            rcases requestFinancialOperation_spec hdone with ⟨hsame, -⟩ | ⟨_, _, _, hrequested⟩
            · exact absurd (hstore.trans hsame) hchanged
            · exact ⟨agent, mandate, payload, hcaller, hactive, hmethod, hrouted, hadmitted,
                processable_of_requested hrequested⟩
      · cases hanswer
        exact absurd rfl hchanged

/-- **Replies are faithful exactly where what becomes an operation is reportable**: the policy
denies, or it allows and either the reservation is lost or an order is placed. -/
theorem replies_faithful_iff (howned : TransactionsOwned s) :
    RepliesFaithful env settings host request headers inputs s ↔
      ∀ agent mandate payload result,
        Becomes env settings host request headers inputs s agent mandate payload →
        evaluate env (requestEvaluation inputs.request) agent mandate
          (newOperation env payload inputs.request) = .ok result →
        Reportable env inputs.request.gateway mandate (newOperation env payload inputs.request)
          result.decision := by
  -- what a call that becomes an operation is answered, and when that is so
  have hanswered : ∀ {agent mandate payload result},
      Becomes env settings host request headers inputs s agent mandate payload →
      evaluate env (requestEvaluation inputs.request) agent mandate
        (newOperation env payload inputs.request) = .ok result →
      ∃ c op, handleMcpJsonrpcGateway env settings host request headers inputs s = .ok c ∧
        s.operations.find? inputs.request.id = none ∧
        c.store.operations.find? inputs.request.id = some op ∧
        (Reported op c.events c.store c.value.answer ↔
          Reportable env inputs.request.gateway mandate
            (newOperation env payload inputs.request) result.decision) := by
    intro agent mandate payload result h hresult
    obtain ⟨hagentId, hmandateId⟩ := toolRequest_ids h.routed
    obtain ⟨s₁, hinserted⟩ := h.processable.inserted
    obtain ⟨-, hholds, -⟩ := LedgerView.ledger_insertOperation hinserted
    have hnew : s.operations.find? inputs.request.id = none := by
      rw [LedgerView.holds_find?] at hholds
      exact Option.map_eq_none_iff.mp hholds
    have hmandate : s.mandates.find? payload.mandateId = some mandate := by
      rw [hmandateId]
      exact find?_of_activeMandate h.active
    have hagent : s.agents.find? payload.agentId = some agent := by
      rw [hagentId]
      exact find?_of_authenticated h.caller
    obtain ⟨done, hrun, hrow, hiff⟩ := request_reported h.admitted h.processable hmandate hagent
      hresult (howned.none_of_new hnew) host (dictGet request.params "name" .null)
    exact ⟨_, _, handle_of_becomes h hrun, hnew, hrow, hiff⟩
  constructor
  · intro h agent mandate payload result hbecomes hresult
    obtain ⟨c, op, hc, hnew, hrow, hiff⟩ := hanswered hbecomes hresult
    exact hiff.mp (h c op hc hnew hrow)
  · intro h c op hc hnew hrow
    have hchanged : c.store ≠ s := by
      intro hsame
      rw [hsame, hnew] at hrow
      cases hrow
    obtain ⟨agent, mandate, payload, hbecomes⟩ := becomes_of_changed hc hchanged
    obtain ⟨hierarchy, hrule, -⟩ := hierarchicalDelegationRule_none mandate
    obtain ⟨result, hresult, -⟩ := @evaluate_of_hierarchy env (requestEvaluation inputs.request)
      agent mandate (newOperation env payload inputs.request) hierarchy hrule
    obtain ⟨c', op', hc', -, hrow', hiff⟩ := hanswered hbecomes hresult
    have hsame : c' = c := Except.ok.inj (hc'.symm.trans hc)
    rw [hsame] at hrow' hiff
    have hop : op' = op := Option.some.inj (hrow'.symm.trans hrow)
    rw [hop] at hiff
    exact hiff.mpr (h agent mandate payload result hbecomes hresult)

end Endpoint

namespace Sample

open ControlPlane.Sample

def toolCall (name : String) (arguments : Dict) : McpJsonRpcRequest :=
  ⟨.int 1, "tools/call", [("name", .str name), ("arguments", .obj arguments)]⟩

def headers : CallerHeaders := ⟨some "hash_key_1", none, none⟩

def met (gateway : GatewayAnswers) : McpInputs where
  hex := ⟨"0123456789abcdef0123456789abcdef", McpGateway.Sample.digits_length⟩
  rzpOrder := .error ""
  request := { inputs "op_1" "order_1" 600 with gateway }

/-- A gateway that creates orders and payment links. -/
def creating : GatewayAnswers :=
  ⟨.ok ⟨"order_1", 600, "INR", "created"⟩, .ok ⟨"plink_1", "https://rzp", 600, "INR"⟩,
    .error ""⟩

def refusing : GatewayAnswers := ⟨.error "gateway timeout", .error "", .error ""⟩

def ToolReplyFaithful (name : String) (gateway : GatewayAnswers) (s : Store) : Prop :=
  RepliesFaithful platform settings plainConversions.toRendering
    (toolCall name [("amount", .int 600)]) headers (met gateway) s

/-- The operation made of an order of the sample world. -/
def ordered : OperationCreate where
  idempotencyKey := "idemp_mcp_0123456789abcdef0123456789abcdef"
  agentId := "agt_1"
  mandateId := "mnd_1"
  operationType := .createOrder
  amount := 600
  currency := "INR"
  payload := [("amount", .int 600)]
  key_length := by decide
  amount_pos := sixHundred_pos

/-- What the answer says of the new operation, beside what is stored: the decisions, the success and
the status, the order's id and those of the transactions. -/
def observed (name : String) (gateway : GatewayAnswers) (s : Store) :
    Option ((Option PolicyDecisionType × Option PolicyDecisionType) × (Bool × OperationStatus) ×
      (Option String × List (Option String))) :=
  match handleMcpJsonrpcGateway platform settings plainConversions.toRendering
      (toolCall name [("amount", .int 600)]) headers (met gateway) s with
  | .error _ => none
  | .ok c =>
    match c.store.operations.find? "op_1", c.value.answer with
    | some op, .ok result => some
      ((reportedDecision result, op.policyEvaluationDetails.map PolicyEvaluationResult.decision),
        (claimsExecuted result, op.status),
        (reportedOrder result, (c.store.transactionsOf op.id).map Transaction.gatewayOrderId))
    | _, _ => none

/-- What is observed of a faithful reply. -/
theorem observed_of_faithful {name : String} {gateway : GatewayAnswers} {s : Store}
    (h : ToolReplyFaithful name gateway s) (hnew : s.operations.find? "op_1" = none)
    {reported recorded : Option PolicyDecisionType} {claims : Bool} {status : OperationStatus}
    {id : Option String} {orders : List (Option String)}
    (hobserved : observed name gateway s =
      some ((reported, recorded), (claims, status), (id, orders))) :
    reported = recorded ∧ (claims = true → status = .executing ∨ status = .succeeded) ∧
      ∀ order, id = some order → some order ∈ orders := by
  unfold observed at hobserved
  split at hobserved
  · cases hobserved
  · rename_i c hc
    split at hobserved
    · rename_i op result hrow hanswer
      cases hobserved
      obtain ⟨result', hresult, hfaithful⟩ := h c op hc hnew hrow
      cases hanswer.symm.trans hresult
      refine ⟨hfaithful.decision, fun hclaims => (hfaithful.executed hclaims).2, ?_⟩
      intro order horder
      obtain ⟨tx, htx, hid⟩ := hfaithful.order order horder
      rw [← hid]
      exact List.mem_map_of_mem htx
    · cases hobserved

end Sample

open Sample ControlPlane.Sample in
/-- An order that the gateway creates is reported as it is. -/
theorem replies_faithful_order : ToolReplyFaithful "payments_create_order" creating store := by
  have howned : TransactionsOwned store := fun tx htx => absurd htx List.not_mem_nil
  refine (replies_faithful_iff howned).mpr fun agent mandate payload result h hresult => ?_
  have hagent : ControlPlane.Sample.agent = agent := Option.some.inj (Except.ok.inj h.caller)
  subst hagent
  have hmandate : ControlPlane.Sample.mandate = mandate := Option.some.inj h.active
  subst hmandate
  have hpayload : ordered = payload := by
    have hrouted := h.routed
    cases hrouted
    rfl
  subst hpayload
  have hallow : (evaluate platform (requestEvaluation (met creating).request)
      ControlPlane.Sample.agent ControlPlane.Sample.mandate
      (newOperation platform ordered (met creating).request)).toOption.map
        PolicyEvaluationResult.decision = some .allow := by
    decide +kernel
  rw [hresult] at hallow
  exact .inr ⟨Option.some.inj hallow, .inr ⟨rfl, ⟨_, rfl⟩, _, rfl, by decide⟩⟩

open Sample ControlPlane.Sample in
/-- **Replies that are not so**: an order that waits for a review is reported as allowed, a dispatch
that failed as executed, and a payment link under the id of an order that does not exist. -/
theorem not_replies_faithful :
    ¬ ToolReplyFaithful "payments_create_order" creating reviewStore ∧
      ¬ ToolReplyFaithful "payments_create_order" refusing store ∧
      ¬ ToolReplyFaithful "payments_create_payment_link" creating store := by
  refine ⟨fun h => ?_, fun h => ?_, fun h => ?_⟩
  · have hobserved : observed "payments_create_order" creating reviewStore =
        some ((some .allow, some .requireHumanReview), (true, .requiresApproval),
          (some "order_op_1", [])) := by
      decide +kernel
    obtain ⟨hdecision, -⟩ := observed_of_faithful h rfl hobserved
    cases hdecision
  · have hobserved : observed "payments_create_order" refusing store =
        some ((some .allow, some .allow), (true, .failed), (some "order_op_1", [])) := by
      decide +kernel
    obtain ⟨-, hexecuted, -⟩ := observed_of_faithful h rfl hobserved
    rcases hexecuted rfl with hstatus | hstatus <;> cases hstatus
  · have hobserved : observed "payments_create_payment_link" creating store =
        some ((some .allow, some .allow), (true, .executing), (some "order_op_1", [none])) := by
      decide +kernel
    obtain ⟨-, -, horder⟩ := observed_of_faithful h rfl hobserved
    cases List.mem_singleton.mp (horder _ rfl)

end MandatePlane.ToolReplies

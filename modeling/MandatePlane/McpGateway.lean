import MandatePlane.McpCatalog
import MandatePlane.AgentChat

/-!
# The JSON-RPC gateway

`POST /mcp`: the caller is authenticated, its newest ACTIVE mandate is looked up, and the
method decides.  A tool call is checked against the tool's schema and becomes a read of
the gateway, an answer that needs none, or an operation that goes through the request
pipeline under the caller's own key.  Latencies and the remaining budget of the answer
are left out.
-/

namespace MandatePlane.McpGateway

open DomainModel KeyedTable JsonValue HostEnvironment CallerAuth PolicyEngine OperationRoutes
open AgentChat McpCatalog

/-- What the request model and `str` make of values nobody expects there. -/
structure Rendering where
  /-- A value that is no integer, read into a field of type `int`. -/
  coerceInt : Json → Option ℤ
  /-- `str(value)` of a value that is no text. -/
  str : Json → String
  /-- `str(exc)` of what the pipeline raises. -/
  errorText : Refusal → String

def Rendering.readInt (host : Rendering) : Json → Option ℤ
  | .int n => some n
  | value => host.coerceInt value

def Rendering.text (host : Rendering) : Json → String
  | .str s => s
  | value => host.str value

/-- `uuid.uuid4().hex`. -/
structure UuidHex where
  text : String
  length_eq : text.length = 32

namespace Sample

theorem digits_length : "0123456789abcdef0123456789abcdef".length = 32 := by decide

theorem zeros_length : "00000000000000000000000000000000".length = 32 := by decide

end Sample

/-- The key of an operation is long enough and not too long. -/
theorem key_length (hex : UuidHex) :
    8 ≤ s!"idemp_mcp_{hex.text}".length ∧ s!"idemp_mcp_{hex.text}".length ≤ 128 := by
  have hlength : s!"idemp_mcp_{hex.text}".length = 42 := by
    show ("idemp_mcp_" ++ hex.text).length = 42
    rw [String.length_append, hex.length_eq]
    rfl
  omega

/-- The value has the declared type; a float is no integer. -/
def admits : SchemaType → Json → Bool
  | .string, .str _ => true
  | .integer, .int _ => true
  | .object, .obj _ => true
  | .boolean, .bool _ => true
  | _, _ => false

/-- `OperationCreate(...)` on values that are still to be checked; what fails raises. -/
def validateOperation (host : Rendering) (idempotencyKey agentId mandateId : String)
    (operationType : Option OperationType) (amount currency : Json) (payload : Dict) :
    Except Refusal OperationCreate :=
  match operationType, host.readInt amount, currency with
  | some operationType, some amount, .str currency =>
    if h : (8 ≤ idempotencyKey.length ∧ idempotencyKey.length ≤ 128) ∧ 0 < amount then
      .ok { idempotencyKey, agentId, mandateId, operationType, amount, currency, payload
            key_length := h.1, amount_pos := h.2 }
    else .error .serverError
  | _, _, _ => .error .serverError

theorem validateOperation_ids {host : Rendering} {key agentId mandateId : String}
    {operationType : Option OperationType} {amount currency : Json} {fields : Dict}
    {payload : OperationCreate}
    (h : validateOperation host key agentId mandateId operationType amount currency fields =
      .ok payload) : payload.agentId = agentId ∧ payload.mandateId = mandateId := by
  unfold validateOperation at h
  split at h
  · split at h
    · cases h
      exact ⟨rfl, rfl⟩
    · cases h
  · cases h

/-! ### A tool call up to its effect -/

structure RpcError where
  code : ℤ
  message : String

/-- What an accepted tool call asks for. -/
inductive ToolRequest where
  | fetchOrder (orderId : Json)
  | describePayment (paymentId : Json)
  | operation (payload : OperationCreate)

/-- `tool_name in RAZORPAY_MCP_TOOL_REGISTRY`; a list or a dictionary has no hash and raises. -/
def lookupTool : Json → Except Refusal (Option McpTool)
  | .str name => .ok (findTool name)
  | .arr (_ :: _) => .error .serverError
  | .obj (_ :: _) => .error .serverError
  | _ => .ok none

/-- The first argument the tool's schema does not know. -/
def unexpectedArgument (tool : McpTool) (arguments : Dict) : Option String :=
  (arguments.map Prod.fst).find? fun key => key ∉ tool.properties.map Prod.fst

/-- `arguments.keys()` exists on dictionaries only. -/
def argumentsOf : Json → Except Refusal Dict
  | .obj fields => .ok fields
  | _ => .error .serverError

/-- The branches below the schema check.  A tool without an operation type and without a branch
of its own falls through to the operation, whose type is then missing. -/
def routeTool (host : Rendering) (agent : Agent) (mandate : Mandate) (tool : McpTool)
    (arguments : Dict) (hex : UuidHex) : Except Refusal (Except RpcError ToolRequest) :=
  if tool.operationType = none ∧ tool.name = "payments_fetch_order" then
    .ok (.ok (.fetchOrder (dictGet arguments "order_id" (.str ""))))
  else if tool.operationType = none ∧ tool.name = "payments_fetch_payment" then
    .ok (.ok (.describePayment (dictGet arguments "payment_id" (.str ""))))
  else if tool.operationType = none ∧ tool.name = "payouts_create" then
    .ok (.error ⟨-32003, "Policy DENIED: Agent does not possess PAYOUTS authorization."⟩)
  else
    (validateOperation host s!"idemp_mcp_{hex.text}" agent.id mandate.id tool.operationType
      (dictGet arguments "amount" (.int 0)) (dictGet arguments "currency" (.str "INR"))
      arguments).map fun payload => .ok (.operation payload)

/-- `_dispatch_mcp_tool_call` up to what it sends on. -/
def toolRequest (host : Rendering) (agent : Agent) (mandate : Mandate)
    (toolName arguments : Json) (hex : UuidHex) :
    Except Refusal (Except RpcError ToolRequest) := do
  match ← lookupTool toolName with
  | none =>
    return .error ⟨-32602, s!"Unknown or unregistered MCP tool: '{host.text toolName}'"⟩
  | some tool =>
    let arguments ← argumentsOf arguments
    match unexpectedArgument tool arguments with
    | some key =>
      return .error ⟨-32602, s!"Schema validation error: Unauthorized/unexpected parameter " ++
        s!"'{key}' passed to tool '{tool.name}'"⟩
    | none => routeTool host agent mandate tool arguments hex

/-- **A tool call requests operations of the caller under its mandate only.** -/
theorem toolRequest_ids {host : Rendering} {agent : Agent} {mandate : Mandate}
    {toolName arguments : Json} {hex : UuidHex} {payload : OperationCreate}
    (h : toolRequest host agent mandate toolName arguments hex = .ok (.ok (.operation payload))) :
    payload.agentId = agent.id ∧ payload.mandateId = mandate.id := by
  obtain ⟨tool, -, h⟩ := bind_eq_ok.mp h
  cases tool with
  | none => cases h
  | some tool =>
    obtain ⟨fields, -, h⟩ := bind_eq_ok.mp h
    split at h
    · cases h
    · unfold routeTool at h
      split_ifs at h
      · cases h
      · cases h
      · cases h
      · cases hvalid : validateOperation host s!"idemp_mcp_{hex.text}" agent.id mandate.id
            tool.operationType (dictGet fields "amount" (.int 0))
            (dictGet fields "currency" (.str "INR")) fields with
        | error refusal =>
          rw [hvalid] at h
          cases h
        | ok valid =>
          rw [hvalid] at h
          cases h
          exact validateOperation_ids hvalid

/-! ### The endpoint -/

inductive RpcResult where
  | initialized
  | tools (tools : List McpTool)
  | readOnly (text : String)
  | denied (text operationId : String) (reasons : List String)
  | executed (text : String) (status : OperationStatus) (operationId gatewayOrderId : String)
      (amountPaise : ℤ)

structure McpJsonRpcRequest where
  id : Json
  method : String
  params : Dict

structure McpJsonRpcResponse where
  id : Json
  answer : Except RpcError RpcResult

/-- What a call meets: the fetched order's text or the exception of the fetch, and what the
operation's request meets. -/
structure McpInputs where
  hex : UuidHex
  rzpOrder : Except String String
  request : RequestInputs

/-- The answer to an operation that was committed. -/
def describeOperation (host : Rendering) (toolName : Json) (op : FinancialOperation) (s : Store) :
    Except RpcError RpcResult :=
  match op.policyEvaluationDetails with
  | none => .error ⟨-32000, s!"Mandate MCP execution error: {host.errorText .serverError}"⟩
  | some details =>
    if details.decision = .deny then
      .ok (.denied ("Mandate Policy DENIED: " ++ op.errorMessage.getD "None") op.operationId
        details.rejectionReasons)
    else
      match scalarOneOrFail (s.transactionsOf op.id) with
      | .error refusal =>
        .error ⟨-32000, s!"Mandate MCP execution error: {host.errorText refusal}"⟩
      | .ok tx =>
        .ok (.executed (s!"Executed {host.text toolName} successfully. " ++
            s!"Operation ID: {op.operationId}, Status: {op.status.value}")
          op.status op.operationId
          ((truthyId (tx.bind Transaction.gatewayOrderId)).getD s!"order_{op.operationId}")
          op.amount)

/-- The headers the pipeline is called with: the agent's stored hash and its id. -/
def gatewayHeaders (agent : Agent) : CallerHeaders := ⟨some agent.apiKeyHash, none, some agent.id⟩

/-- What is done about an accepted tool call.  An operation's exceptions are caught. -/
def fulfil (env : Platform) (settings : Settings) (host : Rendering) (agent : Agent)
    (toolName : Json) (inputs : McpInputs) (s : Store) :
    ToolRequest → Except Refusal (Committed (Except RpcError RpcResult))
  | .fetchOrder _ =>
    match inputs.rzpOrder with
    | .ok text => .ok ⟨.ok (.readOnly text), s, []⟩
    | .error _ => .error .serverError
  | .describePayment paymentId =>
    .ok ⟨.ok (.readOnly s!"Payment details for {host.text paymentId}"), s, []⟩
  | .operation payload =>
    match requestFinancialOperation env settings payload (gatewayHeaders agent) inputs.request s with
    | .ok done =>
      .ok ⟨describeOperation host toolName done.value done.store, done.store, done.events⟩
    | .error .noReturn => .error .noReturn
    | .error refusal =>
      .ok ⟨.error ⟨-32000, s!"Mandate MCP execution error: {host.errorText refusal}"⟩, s, []⟩

/-- `_dispatch_mcp_tool_call`. -/
def dispatchMcpToolCall (env : Platform) (settings : Settings) (host : Rendering) (agent : Agent)
    (mandate : Mandate) (toolName arguments : Json) (inputs : McpInputs) (s : Store) :
    Except Refusal (Committed (Except RpcError RpcResult)) := do
  match ← toolRequest host agent mandate toolName arguments inputs.hex with
  | .error error => return ⟨.error error, s, []⟩
  | .ok request => fulfil env settings host agent toolName inputs s request

/-- The methods, for a caller that has an ACTIVE mandate. -/
def handleMethod (env : Platform) (settings : Settings) (host : Rendering) (agent : Agent)
    (mandate : Mandate) (request : McpJsonRpcRequest) (inputs : McpInputs) (s : Store) :
    Except Refusal (Committed (Except RpcError RpcResult)) :=
  if request.method = "initialize" then .ok ⟨.ok .initialized, s, []⟩
  else if request.method = "tools/list" then
    .ok ⟨.ok (.tools (getFilteredMcpTools agent mandate)), s, []⟩
  else if request.method = "tools/call" then
    dispatchMcpToolCall env settings host agent mandate (dictGet request.params "name" .null)
      (dictGet request.params "arguments" (.obj [])) inputs s
  else .ok ⟨.error ⟨-32601, s!"Method '{request.method}' not found"⟩, s, []⟩

/-- The agent's newest ACTIVE mandate. -/
def activeMandate (agent : Agent) (s : Store) : Option Mandate :=
  newest ((s.mandates.rows.filter fun m => m.agentId = agent.id).filter fun m => m.status = .active)

/-- `POST /mcp`, without the request's id. -/
def answerMcp (env : Platform) (settings : Settings) (host : Rendering)
    (request : McpJsonRpcRequest) (headers : CallerHeaders) (inputs : McpInputs) (s : Store) :
    Except Refusal (Committed (Except RpcError RpcResult)) :=
  match authenticateAgentCaller env settings s.agents headers true with
  | .error (.http _ detail) => .ok ⟨.error ⟨-32001, detail⟩, s, []⟩
  | .error refusal => .error refusal
  | .ok none => .ok ⟨.error ⟨-32001, "Authentication required"⟩, s, []⟩
  | .ok (some agent) =>
    match activeMandate agent s with
    | none =>
      .ok ⟨.error ⟨-32002, s!"Agent '{agent.name}' has no active financial mandate"⟩, s, []⟩
    | some mandate => handleMethod env settings host agent mandate request inputs s

/-- `POST /mcp`. -/
def handleMcpJsonrpcGateway (env : Platform) (settings : Settings) (host : Rendering)
    (request : McpJsonRpcRequest) (headers : CallerHeaders) (inputs : McpInputs) (s : Store) :
    Except Refusal (Committed McpJsonRpcResponse) :=
  (answerMcp env settings host request headers inputs s).map fun c =>
    ⟨⟨request.id, c.value⟩, c.store, c.events⟩

end MandatePlane.McpGateway

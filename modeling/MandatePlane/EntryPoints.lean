import MandatePlane.McpGateway

/-!
# The entry points of an agent

An agent reaches the request pipeline in three ways: by `POST /operations`, by a tool
call of the JSON-RPC gateway, and by a chat turn in which the model calls tools.  A chat
turn is one database session: every request in it commits what the session holds so far,
and what raises rolls back the rest.

The model's completions are inputs: the tool calls of the first one or its exception, and
whether the second one returns.  Of an execution trace the agent and the tool are kept.
-/

namespace MandatePlane.EntryPoints

open DomainModel KeyedTable LabelledRun JsonValue HostEnvironment CallerAuth OperationRoutes
open ControlPlane AgentChat McpGateway

/-! ### The tools of a chat turn -/

/-- A name and a price of the product catalog. -/
structure Product where
  name : String
  pricePaise : ℤ
  price_pos : 0 < pricePaise

/-- `PRODUCTS_CATALOG`. -/
def productsCatalog : List (String × Product) :=
  [("prod_kb_01", ⟨"Keychron K2 Mechanical Keyboard", 650000, by decide⟩),
    ("prod_mouse_01", ⟨"Logitech MX Master 3S Mouse", 899900, by decide⟩),
    ("prod_desk_mat_01", ⟨"Ergonomic Wool Felt Desk Mat", 150000, by decide⟩),
    ("prod_monitor_high_end", ⟨"Dell UltraSharp 32-inch 4K Monitor", 7500000, by decide⟩),
    ("prod_enterprise_server", ⟨"Rackmount GPU AI Workstation", 45000000, by decide⟩)]

/-- Python's own conversions of the arguments a model sends; none raises. -/
structure Conversions extends Rendering where
  /-- `int(value)`. -/
  toInt : Json → Option ℤ
  /-- `int(float(value) * 100)`. -/
  toPaise : Json → Option ℤ

/-- A host that converts integers and nothing else. -/
def plainConversions : Conversions where
  coerceInt _ := none
  str _ := ""
  errorText _ := ""
  toInt value := match value with
    | .int n => some n
    | _ => none
  toPaise _ := none

/-- A tool call, the key its operation gets, and what the operation's request meets. -/
structure LlmToolCall where
  name : String
  arguments : Dict
  hex : UuidHex
  inputs : RequestInputs

def orRaise {α : Type} (x : Option α) : Except Refusal α := orRefuse x .serverError

/-- The branch `create_purchase_order`; a product that is not in the catalog is answered. -/
def purchaseOrder (host : Conversions) (agentId mandateId : String) (call : LlmToolCall) :
    Except Refusal (Option OperationCreate) := do
  let productId := match dictGet call.arguments "product_id" .null with
    | .null => ""
    | value => host.text value
  let quantity := max 1 (← orRaise (host.toInt (dictGet call.arguments "quantity" (.int 1))))
  match productsCatalog.lookup productId with
  | none => return none
  | some product =>
    let payload ← validateOperation host.toRendering s!"idemp_ag_{call.hex.text}" agentId mandateId
      (some .createOrder) (.int (product.pricePaise * quantity)) (.str "INR")
      [("product_id", .str productId), ("product_name", .str product.name),
        ("quantity", .int quantity),
        ("customer_name", dictGet call.arguments "customer_name" (.str "Valued Customer"))]
    return some payload

/-- The branch `create_payment_link_for_customer`. -/
def customerPaymentLink (host : Conversions) (agentId mandateId : String) (call : LlmToolCall) :
    Except Refusal (Option OperationCreate) := do
  let amount ← orRaise (host.toPaise (dictGet call.arguments "amount_in_rupees" (.int 0)))
  let payload ← validateOperation host.toRendering s!"idemp_plink_{call.hex.text}" agentId mandateId
    (some .createPaymentLink) (.int amount) (.str "INR")
    [("description", dictGet call.arguments "description" (.str "Mandate Invoice")),
      ("customer_name", dictGet call.arguments "customer_name" .null),
      ("customer_email", dictGet call.arguments "customer_email" .null)]
  return some payload

/-- A refund without an amount is one of 500 rupees. -/
def refundPaise (host : Conversions) : Json → Except Refusal ℤ
  | .null => .ok 50000
  | value => orRaise (host.toPaise value)

/-- The branch `issue_customer_refund`. -/
def customerRefund (host : Conversions) (agentId mandateId : String) (call : LlmToolCall) :
    Except Refusal (Option OperationCreate) := do
  let amount ← refundPaise host (dictGet call.arguments "amount_in_rupees" .null)
  let payload ← validateOperation host.toRendering s!"idemp_rfnd_{call.hex.text}" agentId mandateId
    (some .createRefund) (.int amount) (.str "INR")
    [("payment_id", .str (host.text (dictGet call.arguments "payment_id" (.str "")))),
      ("reason", dictGet call.arguments "reason" (.str "Customer requested refund"))]
  return some payload

/-- `category.lower()` exists on texts only; a falsy category is not looked at. -/
def browseCatalog (call : LlmToolCall) : Except Refusal (Option OperationCreate) :=
  match dictGet call.arguments "category" .null with
  | .str _ => .ok none
  | category => if category.truthy then .error .serverError else .ok none

/-- `_dispatch_agent_tool` up to the operation it requests, if it requests one.  Looking up a
transaction only reads, and an unknown tool is answered with an error text. -/
def agentTool (host : Conversions) (agentId mandateId : String) (call : LlmToolCall) :
    Except Refusal (Option OperationCreate) :=
  if call.name = "browse_catalog" then browseCatalog call
  else if call.name = "create_purchase_order" then purchaseOrder host agentId mandateId call
  else if call.name = "create_payment_link_for_customer" then
    customerPaymentLink host agentId mandateId call
  else if call.name = "issue_customer_refund" then customerRefund host agentId mandateId call
  else .ok none

/-! ### A chat turn -/

structure ExecutionTrace where
  agentId : String
  toolName : String

/-- The store with the execution traces. -/
structure Database where
  store : Store
  traces : List ExecutionTrace

/-- **A database session**: what it has committed and what it sees, with the observations of
each part. -/
structure Session where
  committed : Database
  view : Database
  done : List Event
  pending : List Event

namespace Session

def commit (x : Session) : Session := ⟨x.view, x.view, x.done ++ x.pending, []⟩

/-- What the session leaves when it is closed. -/
def close (x : Session) : Database × List Event := (x.committed, x.done)

/-- `self.db.add(trace)`. -/
def addTrace (x : Session) (trace : ExecutionTrace) : Session :=
  { x with view := { x.view with traces := x.view.traces ++ [trace] } }

/-- A request's writes, seen by the session. -/
def write (x : Session) (store : Store) (events : List Event) : Session :=
  { x with view := { x.view with store }, pending := x.pending ++ events }

end Session

/-- The pipeline is called as a function, so that no header is a text. -/
def noHeaders : CallerHeaders := ⟨none, none, none⟩

/-- A request inside the session.  A stored operation is returned before anything is committed. -/
def requestInSession (env : Platform) (settings : Settings) (payload : OperationCreate)
    (inputs : RequestInputs) (x : Session) : Except Refusal Session :=
  match requestFinancialOperation env settings payload noHeaders inputs x.view.store with
  | .error refusal => .error refusal
  | .ok done =>
    match x.view.store.operationByIdempotencyKey payload.idempotencyKey with
    | .ok none => .ok (x.write done.store done.events).commit
    | _ => .ok x

/-- The loop over the tool calls: the session after it, or the session in which a call raised. -/
def runToolCalls (env : Platform) (settings : Settings) (host : Conversions)
    (agentId mandateId : String) : List LlmToolCall → Session → Except Session Session
  | [], x => .ok x
  | call :: calls, x =>
    match agentTool host agentId mandateId call with
    | .error _ => .error x
    | .ok none =>
      runToolCalls env settings host agentId mandateId calls (x.addTrace ⟨agentId, call.name⟩)
    | .ok (some payload) =>
      match requestInSession env settings payload call.inputs x with
      | .error _ => .error x
      | .ok x =>
        runToolCalls env settings host agentId mandateId calls (x.addTrace ⟨agentId, call.name⟩)

/-- The completions of a turn: the tool calls of the first, or its exception, and whether the
second, which is asked for after tool calls, returns. -/
structure Completions where
  toolCalls : Option (List LlmToolCall)
  replies : Bool

/-- `AgentRunner.execute_turn`. -/
def executeTurn (env : Platform) (settings : Settings) (host : Conversions)
    (agentId mandateId : String) (turn : Completions) (x : Session) : Database × List Event :=
  match turn.toolCalls with
  | none => x.close
  | some calls =>
    match runToolCalls env settings host agentId mandateId calls x with
    | .error x => x.close
    | .ok x => if calls ≠ [] ∧ turn.replies = false then x.close else x.commit.close

/-- The session of a chat that found its mandate or issued one, which is flushed but not yet
committed. -/
def openSession (d : Database) (opened : Committed Mandate) : Session where
  committed := d
  view := { d with store := opened.store }
  done := []
  pending := opened.events

/-- `POST /agents/{agent_id}/chat`. -/
def chat (env : Platform) (settings : Settings) (host : Conversions) (agentId : String)
    (headers : CallerHeaders) (hex : String) (now : DateTime) (turn : Completions)
    (d : Database) : Database × List Event :=
  match chatWithAgent env settings agentId headers hex now d.store with
  | .error _ => (d, [])
  | .ok opened =>
    executeTurn env settings host opened.value.agentId opened.value.id turn (openSession d opened)

/-! ### The entry points -/

/-- A path parameter: a text that is not empty. -/
structure PathSegment where
  text : String
  nonempty : text.isEmpty = false

inductive Entry where
  | operations (payload : OperationCreate) (headers : CallerHeaders) (inputs : RequestInputs)
  | mcp (request : McpJsonRpcRequest) (headers : CallerHeaders) (inputs : McpInputs)
  | chat (agentId : PathSegment) (headers : CallerHeaders) (hex : String) (now : DateTime)
      (turn : Completions)

/-- What a handler that touches no trace leaves. -/
def withStore {α : Type} (d : Database) (answer : Except Refusal (Committed α)) :
    Database × List Event :=
  ({ d with store := (outcome d.store answer).1 }, (outcome d.store answer).2)

def enter (env : Platform) (settings : Settings) (host : Conversions) (d : Database) :
    Entry → Database × List Event
  | .operations payload headers inputs =>
    withStore d (requestFinancialOperation env settings payload headers inputs d.store)
  | .mcp request headers inputs =>
    withStore d (handleMcpJsonrpcGateway env settings host.toRendering request headers inputs
      d.store)
  | .chat agentId headers hex now turn =>
    chat env settings host agentId.text headers hex now turn d

/-! ### What an entry comes down to -/

section Ids

variable {host : Conversions} {agentId mandateId : String} {call : LlmToolCall}
  {payload : OperationCreate}

theorem purchaseOrder_ids (h : purchaseOrder host agentId mandateId call = .ok (some payload)) :
    payload.agentId = agentId ∧ payload.mandateId = mandateId := by
  unfold purchaseOrder at h
  obtain ⟨quantity, -, h⟩ := bind_eq_ok.mp h
  dsimp only at h
  split at h
  · cases h
  · obtain ⟨valid, hvalid, h⟩ := bind_eq_ok.mp h
    cases h
    exact validateOperation_ids hvalid

theorem customerPaymentLink_ids
    (h : customerPaymentLink host agentId mandateId call = .ok (some payload)) :
    payload.agentId = agentId ∧ payload.mandateId = mandateId := by
  unfold customerPaymentLink at h
  obtain ⟨amount, -, h⟩ := bind_eq_ok.mp h
  obtain ⟨valid, hvalid, h⟩ := bind_eq_ok.mp h
  cases h
  exact validateOperation_ids hvalid

theorem customerRefund_ids (h : customerRefund host agentId mandateId call = .ok (some payload)) :
    payload.agentId = agentId ∧ payload.mandateId = mandateId := by
  unfold customerRefund at h
  obtain ⟨amount, -, h⟩ := bind_eq_ok.mp h
  obtain ⟨valid, hvalid, h⟩ := bind_eq_ok.mp h
  cases h
  exact validateOperation_ids hvalid

theorem browseCatalog_ne (call : LlmToolCall) (payload : OperationCreate) :
    browseCatalog call ≠ .ok (some payload) := by
  unfold browseCatalog
  split
  · exact fun h => by cases h
  · split <;> exact fun h => by cases h

/-- **A tool requests operations of the turn's agent under the turn's mandate only.** -/
theorem agentTool_ids (h : agentTool host agentId mandateId call = .ok (some payload)) :
    payload.agentId = agentId ∧ payload.mandateId = mandateId := by
  unfold agentTool at h
  split at h
  · exact absurd h (browseCatalog_ne call payload)
  · split at h
    · exact purchaseOrder_ids h
    · split at h
      · exact customerPaymentLink_ids h
      · split at h
        · exact customerRefund_ids h
        · cases h

end Ids

section Runs

variable {env : Platform} {settings : Settings} {P : Call → Prop} {s : Store} {x : Session}

/-- The store and the observations are those of a run of the interactive control plane over calls
of one kind. -/
def Reached (env : Platform) (settings : Settings) (P : Call → Prop) (s : Store) (s' : Store)
    (events : List Event) : Prop :=
  ∃ calls : List Call, (∀ c ∈ calls, P c) ∧ (interactivePlane env settings).run s calls = s' ∧
    (interactivePlane env settings).trace s calls = events

theorem Reached.refl (s : Store) : Reached env settings P s s [] :=
  ⟨[], ⟨fun _ h => absurd h List.not_mem_nil, rfl, rfl⟩⟩

theorem Reached.step {s' : Store} {events : List Event} (h : Reached env settings P s s' events)
    {c : Call} (hc : P c) :
    Reached env settings P s (answer env settings s' c).1
      (events ++ (answer env settings s' c).2) := by
  obtain ⟨calls, hall, hrun, htrace⟩ := h
  refine ⟨calls ++ [c], fun b hb => ?_, ?_, ?_⟩
  · rcases List.mem_append.mp hb with hb | hb
    · exact hall b hb
    · rw [List.mem_singleton.mp hb]
      exact hc
  · rw [Machine.run_append, hrun]
    rfl
  · rw [Machine.trace_append, hrun, htrace, Machine.trace_cons, Machine.trace_nil, List.append_nil]
    rfl

/-- What a session has committed and what it sees are both reached from where it began. -/
structure Session.Traced (env : Platform) (settings : Settings) (P : Call → Prop) (s : Store)
    (x : Session) : Prop where
  committed : Reached env settings P s x.committed.store x.done
  view : Reached env settings P s x.view.store (x.done ++ x.pending)

theorem Session.Traced.commit (h : x.Traced env settings P s) : x.commit.Traced env settings P s :=
  ⟨h.view, by rw [show x.commit.done ++ x.commit.pending = x.done ++ x.pending from
    List.append_nil _]; exact h.view⟩

theorem Session.Traced.addTrace (h : x.Traced env settings P s) (trace : ExecutionTrace) :
    (x.addTrace trace).Traced env settings P s := ⟨h.committed, h.view⟩

theorem Session.Traced.request (h : x.Traced env settings P s) {payload : OperationCreate}
    {inputs : RequestInputs} {x' : Session}
    (hP : P (.control (.request payload noHeaders inputs)))
    (hx : requestInSession env settings payload inputs x = .ok x') :
    x'.Traced env settings P s := by
  unfold requestInSession at hx
  split at hx
  · cases hx
  · rename_i done hdone
    split at hx
    · cases hx
      refine Session.Traced.commit ⟨h.committed, ?_⟩
      have hstep := h.view.step hP
      rw [answer, perform, hdone, List.append_assoc] at hstep
      exact hstep
    · cases hx
      exact h

theorem runToolCalls_traced {host : Conversions} {agentId mandateId : String}
    (hP : ∀ payload inputs, payload.agentId = agentId → payload.mandateId = mandateId →
      P (.control (.request payload noHeaders inputs)))
    (calls : List LlmToolCall) (h : x.Traced env settings P s) :
    ∀ x', (runToolCalls env settings host agentId mandateId calls x = .error x' ∨
      runToolCalls env settings host agentId mandateId calls x = .ok x') →
        x'.Traced env settings P s := by
  induction calls generalizing x with
  | nil =>
    rintro x' (hx | hx)
    · cases hx
    · cases hx
      exact h
  | cons call calls ih =>
    intro x' hx
    rw [runToolCalls] at hx
    split at hx
    · rcases hx with hx | hx
      · cases hx
        exact h
      · cases hx
    · exact ih (h.addTrace _) x' hx
    · rename_i payload htool
      obtain ⟨hagent, hmandate⟩ := agentTool_ids htool
      split at hx
      · rcases hx with hx | hx
        · cases hx
          exact h
        · cases hx
      · rename_i next hnext
        exact ih ((h.request (hP payload call.inputs hagent hmandate) hnext).addTrace _) x' hx

theorem executeTurn_reached {host : Conversions} {agentId mandateId : String} {turn : Completions}
    (hP : ∀ payload inputs, payload.agentId = agentId → payload.mandateId = mandateId →
      P (.control (.request payload noHeaders inputs)))
    (h : x.Traced env settings P s) :
    Reached env settings P s (executeTurn env settings host agentId mandateId turn x).1.store
      (executeTurn env settings host agentId mandateId turn x).2 := by
  unfold executeTurn
  split
  · exact h.committed
  · rename_i calls hcalls
    split
    · rename_i x' hx
      exact (runToolCalls_traced hP calls h x' (.inl hx)).committed
    · rename_i x' hx
      have htraced := runToolCalls_traced hP calls h x' (.inr hx)
      split
      · exact htraced.committed
      · exact htraced.commit.committed

end Runs

/-- The calls an entry can come down to: the request itself, a request for the authenticated
agent's ACTIVE mandate, or the issue of a chat and requests in the name of its agent. -/
def Entry.Leads (env : Platform) (settings : Settings) (s : Store) : Entry → Call → Prop
  | .operations payload headers inputs, c => c = .control (.request payload headers inputs)
  | .mcp _ headers inputs, c => ∃ agent mandate payload,
      authenticateAgentCaller env settings s.agents headers true = .ok (some agent) ∧
        activeMandate agent s = some mandate ∧ payload.agentId = agent.id ∧
        payload.mandateId = mandate.id ∧
        c = .control (.request payload (gatewayHeaders agent) inputs.request)
  | .chat agentId headers hex now _, c => c = .chat agentId.text headers hex now ∨
      ∃ agent payload inputs, chatAgent env settings agentId.text headers s.agents =
          .ok (some agent) ∧ payload.agentId = agent.id ∧
        c = .control (.request payload noHeaders inputs)

/-- An issue, or a request in the agent's name. -/
def ActsFor (agentId : String) : Call → Prop
  | .control (.request payload _ _) => payload.agentId = agentId
  | .chat _ _ _ _ => True
  | _ => False

theorem mem_of_newest {mandates : List Mandate} {m : Mandate} (h : newest mandates = some m) :
    m ∈ mandates := by
  unfold newest at h
  exact List.argmax_mem h

/-- The mandate a chat runs under is the agent's. -/
theorem chatWithAgent_agent {env : Platform} {settings : Settings} {agentId : String}
    {headers : CallerHeaders} {hex : String} {now : DateTime} {s : Store} {c : Committed Mandate}
    (h : chatWithAgent env settings agentId headers hex now s = .ok c) :
    ∃ agent, chatAgent env settings agentId headers s.agents = .ok (some agent) ∧
      c.value.agentId = agent.id := by
  obtain ⟨found, hfound, h⟩ := bind_eq_ok.mp h
  obtain ⟨agent, hagent, h⟩ := bind_eq_ok.mp h
  rw [orRefuse_eq_ok] at hagent
  refine ⟨agent, by rw [hfound, hagent], ?_⟩
  dsimp only at h
  split at h
  · rename_i mandate hnewest
    cases h
    have hmem := mem_of_newest hnewest
    rw [List.mem_filter, List.mem_filter] at hmem
    exact of_decide_eq_true hmem.1.2
  · obtain ⟨mandates, -, h⟩ := bind_eq_ok.mp h
    cases h
    rfl

section Chats

variable {env : Platform} {settings : Settings} {agentId hex : String} {headers : CallerHeaders}
  {now : DateTime} {s : Store} {agent : Agent}

/-- A chat with an agent that has an ACTIVE mandate runs under the newest one. -/
theorem chatWithAgent_active {mandate : Mandate}
    (hagent : chatAgent env settings agentId headers s.agents = .ok (some agent))
    (h : activeMandate agent s = some mandate) :
    chatWithAgent env settings agentId headers hex now s = .ok ⟨mandate, s, []⟩ := by
  unfold activeMandate at h
  unfold chatWithAgent
  simp only [hagent, bind, Except.bind, orRefuse, h]
  rfl

/-- What a chat issues to an agent without an ACTIVE mandate. -/
def issuedByChat (env : Platform) (agent : Agent) (hex : String) (now : DateTime) (s : Store) :
    Mandate :=
  reissuedMandate env agent (newest (s.mandates.rows.filter fun m => m.agentId = agent.id)) hex now

/-- A chat with an agent that has none issues one, unless its id is taken. -/
theorem chatWithAgent_reissues
    (hagent : chatAgent env settings agentId headers s.agents = .ok (some agent))
    (h : activeMandate agent s = none) :
    chatWithAgent env settings agentId headers hex now s =
      match s.mandates.insert (issuedByChat env agent hex now s) with
      | none => .error .serverError
      | some mandates => .ok ⟨issuedByChat env agent hex now s, { s with mandates },
          [.issued (issuedByChat env agent hex now s)]⟩ := by
  unfold activeMandate at h
  unfold chatWithAgent
  simp only [hagent, bind, Except.bind, orRefuse, h]
  unfold issuedByChat
  generalize reissuedMandate env agent _ hex now = mandate
  cases s.mandates.insert mandate with
  | none => rfl
  | some mandates => rfl

end Chats

section Entries

variable {env : Platform} {settings : Settings} {s : Store}

theorem fulfil_cases {host : Rendering} {agent : Agent} {toolName : Json} {inputs : McpInputs}
    {request : ToolRequest} {c : Committed (Except RpcError RpcResult)}
    (h : fulfil env settings host agent toolName inputs s request = .ok c) :
    (c.store = s ∧ c.events = []) ∨ ∃ payload done, request = .operation payload ∧
      requestFinancialOperation env settings payload (gatewayHeaders agent) inputs.request s =
        .ok done ∧ c.store = done.store ∧ c.events = done.events := by
  cases request with
  | fetchOrder orderId =>
    simp only [fulfil] at h
    split at h
    · cases h
      exact .inl ⟨rfl, rfl⟩
    · cases h
  | describePayment paymentId =>
    simp only [fulfil] at h
    cases h
    exact .inl ⟨rfl, rfl⟩
  | operation payload =>
    simp only [fulfil] at h
    split at h
    · rename_i done hdone
      cases h
      exact .inr ⟨payload, done, rfl, hdone, rfl, rfl⟩
    · cases h
    · cases h
      exact .inl ⟨rfl, rfl⟩

/-- What the gateway does with a tool call is a request or nothing. -/
theorem answerMcp_cases {host : Rendering} {request : McpJsonRpcRequest} {headers : CallerHeaders}
    {inputs : McpInputs} {c : Committed (Except RpcError RpcResult)}
    (h : answerMcp env settings host request headers inputs s = .ok c) :
    (c.store = s ∧ c.events = []) ∨ ∃ agent mandate payload done,
      authenticateAgentCaller env settings s.agents headers true = .ok (some agent) ∧
        activeMandate agent s = some mandate ∧ payload.agentId = agent.id ∧
        payload.mandateId = mandate.id ∧
        requestFinancialOperation env settings payload (gatewayHeaders agent) inputs.request s =
          .ok done ∧ c.store = done.store ∧ c.events = done.events := by
  unfold answerMcp at h
  split at h
  · cases h
    exact .inl ⟨rfl, rfl⟩
  · cases h
  · cases h
    exact .inl ⟨rfl, rfl⟩
  · rename_i agent hagent
    split at h
    · cases h
      exact .inl ⟨rfl, rfl⟩
    · rename_i mandate hmandate
      unfold handleMethod at h
      split_ifs at h
      · cases h
        exact .inl ⟨rfl, rfl⟩
      · cases h
        exact .inl ⟨rfl, rfl⟩
      · obtain ⟨routed, hrouted, h⟩ := bind_eq_ok.mp h
        cases routed with
        | error error =>
          cases h
          exact .inl ⟨rfl, rfl⟩
        | ok request =>
          rcases fulfil_cases h with hnone | ⟨payload, done, rfl, hdone, hs, he⟩
          · exact .inl hnone
          · obtain ⟨hagentId, hmandateId⟩ := toolRequest_ids hrouted
            exact .inr ⟨agent, mandate, payload, done, hagent, hmandate, hagentId, hmandateId, hdone,
              hs, he⟩
      · cases h
        exact .inl ⟨rfl, rfl⟩

/-- **An entry refines the interactive control plane**: what it leaves is reached by calls it leads
to. -/
theorem enter_reached (host : Conversions) (d : Database) (e : Entry) :
    Reached env settings (e.Leads env settings d.store) d.store
      (enter env settings host d e).1.store (enter env settings host d e).2 := by
  cases e with
  | operations payload headers inputs =>
    exact (Reached.refl d.store).step (c := .control (.request payload headers inputs)) rfl
  | mcp request headers inputs =>
    simp only [enter, withStore, handleMcpJsonrpcGateway]
    cases h : answerMcp env settings host.toRendering request headers inputs d.store with
    | error refusal => exact .refl d.store
    | ok c =>
      rcases answerMcp_cases h with ⟨hs, he⟩ | ⟨agent, mandate, payload, done, hauth, hmandate,
        hagentId, hmandateId, hdone, hs, he⟩
      · show Reached env settings _ d.store c.store c.events
        rw [hs, he]
        exact .refl d.store
      · have hleads : Entry.Leads env settings d.store (.mcp request headers inputs)
            (.control (.request payload (gatewayHeaders agent) inputs.request)) :=
          ⟨agent, mandate, payload, hauth, hmandate, hagentId, hmandateId, rfl⟩
        have hstep : Reached env settings _ d.store _ _ := (Reached.refl d.store).step hleads
        rw [answer, perform, hdone] at hstep
        show Reached env settings _ d.store c.store c.events
        rw [hs, he]
        exact hstep
  | chat agentId headers hex now turn =>
    simp only [enter, chat]
    cases h : chatWithAgent env settings agentId.text headers hex now d.store with
    | error refusal => exact .refl d.store
    | ok opened =>
      obtain ⟨agent, hagent, hid⟩ := chatWithAgent_agent h
      refine executeTurn_reached (fun payload inputs hagentId _ =>
        .inr ⟨agent, payload, inputs, hagent, hagentId.trans hid, rfl⟩) ⟨.refl d.store, ?_⟩
      have hleads : Entry.Leads env settings d.store (.chat agentId headers hex now turn)
          (.chat agentId.text headers hex now) := .inl rfl
      have hstep : Reached env settings _ d.store _ _ := (Reached.refl d.store).step hleads
      rw [answer, h] at hstep
      exact hstep

end Entries

end MandatePlane.EntryPoints

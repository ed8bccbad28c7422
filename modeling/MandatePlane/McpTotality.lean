import MandatePlane.AuthenticatedEntry

/-!
# Whether the gateway answers

A request of the JSON-RPC gateway should be answered whatever its method, its tool and its
arguments are.  What the request pipeline raises is caught.  Looking the tool up, reading
its arguments, fetching an order and validating the operation come before that.
-/

namespace MandatePlane.McpTotality

open DomainModel KeyedTable JsonValue HostEnvironment CallerAuth PolicyEngine OperationRoutes
open AgentChat McpCatalog McpGateway AuthenticatedEntry PolicyDryRun

/-! ### What can be answered -/

/-- The tool's name can be looked up in a dictionary. -/
def hashable : Json → Bool
  | .arr (_ :: _) => false
  | .obj (_ :: _) => false
  | _ => true

/-- The arguments make an operation: a tool with an operation type, an amount that reads as a
positive integer, a currency that is a text. -/
def MakesOperation (host : Rendering) (tool : McpTool) (arguments : Dict) : Prop :=
  tool.operationType ≠ none ∧
    (∃ amount, host.readInt (dictGet arguments "amount" (.int 0)) = some amount ∧ 0 < amount) ∧
    ∃ currency, dictGet arguments "currency" (.str "INR") = .str currency

/-- The registered tools that are answered without an operation. -/
def AnsweredDirectly (rzpOrder : Except String String) (tool : McpTool) : Prop :=
  tool.name = "payments_fetch_order" ∧ rzpOrder.isOk = true ∨
    tool.name = "payments_fetch_payment" ∨ tool.name = "payouts_create"

/-- **A tool call that is answered**: its name can be looked up, and where it names a tool its
arguments are a dictionary, with a key that the tool does not know, or such that the tool is
answered directly or gets an operation. -/
def Answerable (host : Rendering) (rzpOrder : Except String String) (toolName arguments : Json) :
    Prop :=
  hashable toolName = true ∧ ∀ name tool, toolName = .str name → findTool name = some tool →
    ∃ fields, arguments = .obj fields ∧ (unexpectedArgument tool fields ≠ none ∨
      AnsweredDirectly rzpOrder tool ∨ MakesOperation host tool fields)

/-! ### The pipeline ends -/

/-- The computation returns or raises. -/
def Ends {α : Type} (x : Except Refusal α) : Prop := x ≠ .error .noReturn

theorem Ends.ok {α : Type} (a : α) : Ends (.ok a : Except Refusal α) := nofun

theorem Ends.http {α : Type} (status : ℕ) (detail : String) :
    Ends (.error (.http status detail) : Except Refusal α) := nofun

theorem Ends.serverError {α : Type} : Ends (.error .serverError : Except Refusal α) := nofun

/-- A sequence ends when its parts do. -/
theorem Ends.bind {α β : Type} {x : Except Refusal α} {f : α → Except Refusal β} (hx : Ends x)
    (hf : ∀ a, x = .ok a → Ends (f a)) : Ends (x >>= f) := by
  cases x with
  | error refusal => exact fun h => hx (by cases h; rfl)
  | ok a => exact hf a rfl

theorem Ends.orRefuse {α : Type} (x : Option α) {refusal : Refusal} (h : refusal ≠ .noReturn) :
    Ends (DomainModel.orRefuse x refusal) := by
  cases x with
  | some a => exact .ok a
  | none => exact fun heq => h (Except.error.inj heq)

theorem Ends.scalar {α : Type} (rows : List α) : Ends (scalarOneOrFail rows) := by
  unfold scalarOneOrFail
  cases scalarOneOrNone rows with
  | ok row => exact .ok row
  | error text => exact .serverError

section Pipeline

variable {env : Platform} {settings : Settings} {s : Store} {headers : CallerHeaders}
  {payload : OperationCreate} {inputs : RequestInputs}

theorem authenticateAgentCaller_ends (agents : Table Agent) (required : Bool) :
    Ends (authenticateAgentCaller env settings agents headers required) := by
  have hmissing : Ends (authenticateAgentCaller.missing required) := by
    cases required with
    | false => exact .ok none
    | true => exact .http _ _
  unfold authenticateAgentCaller
  split
  · split
    · exact .http _ _
    · split
      · exact .http _ _
      · split
        · exact .ok _
        · split
          · exact .http _ _
          · exact .ok _
  · split
    · split
      · split
        · exact .http _ _
        · split
          · exact .http _ _
          · exact .ok _
      · exact hmissing
    · exact hmissing

theorem authenticateRequest_ends (agents : Table Agent) :
    Ends (authenticateRequest env settings payload headers agents) := by
  unfold authenticateRequest
  split
  · refine .bind (authenticateAgentCaller_ends agents false) fun found _ => ?_
    cases found with
    | none => exact .ok ()
    | some agent =>
      dsimp only
      unfold ensure
      split
      · exact .ok ()
      · exact .http _ _
  · exact .ok ()

/-- **The pipeline ends**: the engine is called without a context, so that no ancestors are
walked. -/
theorem requestFinancialOperation_ends :
    Ends (requestFinancialOperation env settings payload headers inputs s) := by
  refine .bind (authenticateRequest_ends s.agents) fun _ _ => ?_
  refine .bind (.scalar _) fun existing _ => ?_
  cases existing with
  | some op => exact .ok _
  | none =>
    refine .bind (.orRefuse _ nofun) fun mandate _ => ?_
    refine .bind (.orRefuse _ nofun) fun agent _ => ?_
    refine .bind (.orRefuse _ nofun) fun s₁ _ => ?_
    obtain ⟨hierarchy, hrule, -⟩ := hierarchicalDelegationRule_none mandate
    obtain ⟨result, hresult, -⟩ := @evaluate_of_hierarchy env (requestEvaluation inputs) agent
      mandate (newOperation env payload inputs) hierarchy hrule
    unfold decideOperation
    simp only [hresult, bind, Except.bind]
    exact .ok _

end Pipeline

/-! ### Which requests are answered -/

section Answers

variable {env : Platform} {settings : Settings} {host : Rendering} {agent : Agent}
  {mandate : Mandate} {toolName arguments : Json} {hex : UuidHex} {inputs : McpInputs} {s : Store}
  {tool : McpTool} {fields : Dict}

/-- **What validates**: an operation type, a positive integer and a text. -/
theorem validateOperation_isOk {key agentId mandateId : String}
    (hkey : 8 ≤ key.length ∧ key.length ≤ 128) {operationType : Option OperationType}
    {amount currency : Json} :
    (∃ payload, validateOperation host key agentId mandateId operationType amount currency fields =
        .ok payload) ↔
      operationType ≠ none ∧ (∃ n, host.readInt amount = some n ∧ 0 < n) ∧
        ∃ text, currency = .str text := by
  unfold validateOperation
  constructor
  · rintro ⟨payload, h⟩
    split at h
    · rename_i type n text hamount
      split at h
      · rename_i hbounds
        exact ⟨Option.some_ne_none type, ⟨n, hamount, hbounds.2⟩, text, rfl⟩
      · cases h
    · cases h
  · rintro ⟨htype, ⟨n, hamount, hpos⟩, text, rfl⟩
    obtain ⟨type, rfl⟩ := Option.ne_none_iff_exists'.mp htype
    rw [hamount]
    exact ⟨_, dif_pos ⟨hkey, hpos⟩⟩

/-- The branches of their own belong to registered tools without an operation type. -/
theorem operationType_of_direct {name : String} (h : findTool name = some tool)
    (hname : tool.name = "payments_fetch_order" ∨ tool.name = "payments_fetch_payment" ∨
      tool.name = "payouts_create") : tool.operationType = none := by
  have hall : ∀ tool ∈ razorpayMcpToolRegistry, tool.name = "payments_fetch_order" ∨
      tool.name = "payments_fetch_payment" ∨ tool.name = "payouts_create" →
        tool.operationType = none := by
    decide +kernel
  exact hall tool (List.mem_of_find?_eq_some h) hname

/-- What the pipeline raises is caught. -/
theorem fulfil_operation_returns (payload : OperationCreate) :
    ∃ c, fulfil env settings host agent toolName inputs s (.operation payload) = .ok c := by
  have hends : Ends (requestFinancialOperation env settings payload (gatewayHeaders agent)
    inputs.request s) := requestFinancialOperation_ends
  simp only [fulfil]
  cases hrun : requestFinancialOperation env settings payload (gatewayHeaders agent)
      inputs.request s with
  | ok done => exact ⟨_, rfl⟩
  | error refusal =>
    cases refusal with
    | noReturn => exact absurd hrun hends
    | serverError => exact ⟨_, rfl⟩
    | http status detail => exact ⟨_, rfl⟩

/-- What a tool call comes down to. -/
def answerRouted (env : Platform) (settings : Settings) (host : Rendering) (agent : Agent)
    (toolName : Json) (inputs : McpInputs) (s : Store) (routed : Except RpcError ToolRequest) :
    Except Refusal (Committed (Except RpcError RpcResult)) :=
  match routed with
  | .error error => .ok ⟨.error error, s, []⟩
  | .ok request => fulfil env settings host agent toolName inputs s request

/-- **A routed tool is answered** when its branch needs no operation, and the gateway answers the
fetch of an order, or when its arguments make an operation. -/
theorem routed_answered_iff {name : String} (htool : findTool name = some tool) :
    (∃ c, (routeTool host agent mandate tool fields inputs.hex >>=
        answerRouted env settings host agent toolName inputs s) = .ok c) ↔
      AnsweredDirectly inputs.rzpOrder tool ∨ MakesOperation host tool fields := by
  have htype := operationType_of_direct htool
  unfold routeTool
  by_cases horder : tool.name = "payments_fetch_order"
  · have hnone : tool.operationType = none := htype (.inl horder)
    rw [if_pos ⟨hnone, horder⟩]
    simp only [AnsweredDirectly, MakesOperation, hnone, horder, true_and, ne_eq,
      not_true_eq_false, false_and, or_false, String.reduceEq]
    show (∃ c, fulfil env settings host agent toolName inputs s
      (.fetchOrder (dictGet fields "order_id" (.str ""))) = .ok c) ↔ _
    simp only [fulfil]
    cases inputs.rzpOrder with
    | ok text => exact iff_of_true ⟨_, rfl⟩ rfl
    | error text =>
      refine iff_of_false ?_ fun h => by cases h
      rintro ⟨c, h⟩
      cases h
  · rw [if_neg fun h => horder h.2]
    by_cases hpayment : tool.name = "payments_fetch_payment"
    · rw [if_pos ⟨htype (.inr (.inl hpayment)), hpayment⟩]
      exact iff_of_true ⟨_, rfl⟩ (.inl (.inr (.inl hpayment)))
    · rw [if_neg fun h => hpayment h.2]
      by_cases hpayout : tool.name = "payouts_create"
      · rw [if_pos ⟨htype (.inr (.inr hpayout)), hpayout⟩]
        exact iff_of_true ⟨_, rfl⟩ (.inl (.inr (.inr hpayout)))
      · rw [if_neg fun h => hpayout h.2]
        have hdirect : ¬ AnsweredDirectly inputs.rzpOrder tool := by
          rintro (⟨h, -⟩ | h | h)
          · exact horder h
          · exact hpayment h
          · exact hpayout h
        unfold MakesOperation
        rw [← @validateOperation_isOk host fields s!"idemp_mcp_{inputs.hex.text}" agent.id
          mandate.id (key_length inputs.hex)]
        constructor
        · rintro ⟨c, hc⟩
          obtain ⟨routed, hrouted, -⟩ := bind_eq_ok.mp hc
          cases hvalid : validateOperation host s!"idemp_mcp_{inputs.hex.text}" agent.id mandate.id
              tool.operationType (dictGet fields "amount" (.int 0))
              (dictGet fields "currency" (.str "INR")) fields with
          | error refusal =>
            rw [hvalid] at hrouted
            cases hrouted
          | ok payload => exact .inr ⟨payload, rfl⟩
        · rintro (h | ⟨payload, hvalid⟩)
          · exact absurd h hdirect
          · rw [hvalid]
            exact fulfil_operation_returns payload

/-- A tool that is not registered is answered. -/
theorem toolRequest_unregistered (h : lookupTool toolName = .ok none) :
    ∃ error, toolRequest host agent mandate toolName arguments hex = .ok (.error error) := by
  unfold toolRequest
  rw [h]
  exact ⟨_, rfl⟩

/-- A registered tool's request takes its arguments from a dictionary. -/
theorem toolRequest_registered {name : String} (hfind : findTool name = some tool) :
    toolRequest host agent mandate (.str name) (.obj fields) hex =
      match unexpectedArgument tool fields with
      | some key => .ok (.error ⟨-32602, s!"Schema validation error: Unauthorized/unexpected " ++
          "parameter " ++ s!"'{key}' passed to tool '{tool.name}'"⟩)
      | none => routeTool host agent mandate tool fields hex := by
  have hlookup : lookupTool (.str name) = .ok (some tool) := congrArg Except.ok hfind
  unfold toolRequest
  rw [hlookup]
  rfl

theorem toolRequest_noDictionary {name : String} (hfind : findTool name = some tool)
    (h : argumentsOf arguments = .error .serverError) :
    toolRequest host agent mandate (.str name) arguments hex = .error .serverError := by
  have hlookup : lookupTool (.str name) = .ok (some tool) := congrArg Except.ok hfind
  unfold toolRequest
  rw [hlookup]
  show (argumentsOf arguments >>= _) = _
  rw [h]
  rfl

/-- A registered tool's call is answerable when its arguments are. -/
theorem answerable_registered {rzpOrder : Except String String} {name : String}
    (hfind : findTool name = some tool) :
    Answerable host rzpOrder (.str name) arguments ↔
      ∃ fields, arguments = .obj fields ∧ (unexpectedArgument tool fields ≠ none ∨
        AnsweredDirectly rzpOrder tool ∨ MakesOperation host tool fields) := by
  constructor
  · intro h
    exact h.2 name tool rfl hfind
  · intro h
    refine ⟨rfl, fun name' tool' hname htool => ?_⟩
    cases hname
    have htools : tool' = tool := Option.some.inj (htool.symm.trans hfind)
    rw [htools]
    exact h

/-- A tool call is its request, answered. -/
theorem dispatch_eq :
    dispatchMcpToolCall env settings host agent mandate toolName arguments inputs s =
      toolRequest host agent mandate toolName arguments inputs.hex >>=
        answerRouted env settings host agent toolName inputs s := by
  unfold dispatchMcpToolCall
  refine congrArg (toolRequest host agent mandate toolName arguments inputs.hex >>= ·) ?_
  funext routed
  cases routed with
  | error error => rfl
  | ok request => rfl

/-- **A tool call is answered exactly where it is answerable.** -/
theorem dispatchMcpToolCall_returns_iff :
    (∃ c, dispatchMcpToolCall env settings host agent mandate toolName arguments inputs s =
      .ok c) ↔ Answerable host inputs.rzpOrder toolName arguments := by
  rw [dispatch_eq]
  have hother : lookupTool toolName = .ok none →
      ∃ c, (toolRequest host agent mandate toolName arguments inputs.hex >>=
        answerRouted env settings host agent toolName inputs s) = .ok c := by
    intro h
    obtain ⟨error, hrequest⟩ :=
      @toolRequest_unregistered host agent mandate _ arguments inputs.hex h
    rw [hrequest]
    exact ⟨_, rfl⟩
  cases toolName with
  | str name =>
    cases hfind : findTool name with
    | none =>
      refine iff_of_true (hother (congrArg Except.ok hfind)) ⟨rfl, fun _ tool hname htool => ?_⟩
      cases hname
      rw [hfind] at htool
      cases htool
    | some tool =>
      rw [answerable_registered hfind]
      cases arguments with
      | obj fields =>
        rw [toolRequest_registered hfind]
        simp only [Json.obj.injEq, exists_eq_left']
        cases hunexpected : unexpectedArgument tool fields with
        | some key => exact iff_of_true ⟨_, rfl⟩ (.inl nofun)
        | none =>
          have hrouted := @routed_answered_iff env settings host agent mandate (.str name) inputs s
            tool fields name hfind
          simp only [hrouted, ne_eq, not_true_eq_false, false_or]
      | _ =>
        rw [toolRequest_noDictionary hfind rfl]
        exact iff_of_false (fun ⟨c, h⟩ => by cases h) (fun ⟨fields, h, _⟩ => by cases h)
  | arr items =>
    cases items with
    | nil => exact iff_of_true (hother rfl) ⟨rfl, nofun⟩
    | cons item items => exact iff_of_false (fun ⟨c, h⟩ => by cases h) (fun h => by cases h.1)
  | obj items =>
    cases items with
    | nil => exact iff_of_true (hother rfl) ⟨rfl, nofun⟩
    | cons item items => exact iff_of_false (fun ⟨c, h⟩ => by cases h) (fun h => by cases h.1)
  | _ => exact iff_of_true (hother rfl) ⟨rfl, nofun⟩

end Answers

/-! ### The endpoint -/

section Endpoint

variable {env : Platform} {settings : Settings} {host : Rendering} {agent : Agent}
  {mandate : Mandate} {request : McpJsonRpcRequest} {headers : CallerHeaders}
  {inputs : McpInputs} {s : Store}

/-- **Answered**: one response, with the request's id; it carries a result or an error. -/
def Answered (env : Platform) (settings : Settings) (host : Rendering)
    (request : McpJsonRpcRequest) (headers : CallerHeaders) (inputs : McpInputs) (s : Store) :
    Prop :=
  ∃ c, handleMcpJsonrpcGateway env settings host request headers inputs s = .ok c ∧
    c.value.id = request.id

/-- The response carries the id of its request. -/
theorem answered_iff_answerMcp :
    Answered env settings host request headers inputs s ↔
      ∃ c, answerMcp env settings host request headers inputs s = .ok c := by
  unfold Answered handleMcpJsonrpcGateway
  cases answerMcp env settings host request headers inputs s with
  | error refusal => exact iff_of_false (fun ⟨c, h, _⟩ => by cases h) (fun ⟨c, h⟩ => by cases h)
  | ok c => exact iff_of_true ⟨_, rfl, rfl⟩ ⟨c, rfl⟩

/-- Of the methods only the tool call can fail. -/
theorem handleMethod_returns_iff :
    (∃ c, handleMethod env settings host agent mandate request inputs s = .ok c) ↔
      (request.method = "tools/call" → Answerable host inputs.rzpOrder
        (dictGet request.params "name" .null) (dictGet request.params "arguments" (.obj []))) := by
  unfold handleMethod
  by_cases hinitialize : request.method = "initialize"
  · rw [if_pos hinitialize, hinitialize]
    exact iff_of_true ⟨_, rfl⟩ (fun h => absurd h (by decide))
  · rw [if_neg hinitialize]
    by_cases hlist : request.method = "tools/list"
    · rw [if_pos hlist, hlist]
      exact iff_of_true ⟨_, rfl⟩ (fun h => absurd h (by decide))
    · rw [if_neg hlist]
      by_cases hcall : request.method = "tools/call"
      · rw [if_pos hcall, dispatchMcpToolCall_returns_iff]
        exact ⟨fun h _ => h, fun h => h hcall⟩
      · rw [if_neg hcall]
        exact iff_of_true ⟨_, rfl⟩ (fun h => absurd h hcall)

/-- **The gateway answers** an authenticated agent with an ACTIVE mandate exactly where what it
calls, if it calls a tool, is answerable. -/
theorem gateway_answers_iff
    (hauth : authenticateAgentCaller env settings s.agents headers true = .ok (some agent))
    (hmandate : activeMandate agent s = some mandate) :
    Answered env settings host request headers inputs s ↔
      (request.method = "tools/call" → Answerable host inputs.rzpOrder
        (dictGet request.params "name" .null) (dictGet request.params "arguments" (.obj []))) := by
  rw [answered_iff_answerMcp, ← @handleMethod_returns_iff env settings host agent mandate request
    inputs s]
  unfold answerMcp
  simp only [hauth, hmandate]

end Endpoint

namespace Sample

open ControlPlane.Sample

def toolCall (name arguments : Json) : McpJsonRpcRequest :=
  ⟨.int 1, "tools/call", [("name", name), ("arguments", arguments)]⟩

def headers : CallerHeaders := ⟨some "hash_key_1", none, none⟩

def met (rzpOrder : Except String String) : McpInputs :=
  ⟨⟨"0123456789abcdef0123456789abcdef", McpGateway.Sample.digits_length⟩, rzpOrder,
    inputs "op_1" "order_1" 500⟩

theorem entered :
    authenticateAgentCaller platform settings store.agents headers true =
        .ok (some ControlPlane.Sample.agent) ∧
      activeMandate ControlPlane.Sample.agent store = some ControlPlane.Sample.mandate :=
  ⟨rfl, rfl⟩

/-- Whether the sample world answers a tool call. -/
def ToolAnswered (name arguments : Json) (rzpOrder : Except String String) : Prop :=
  Answered platform settings EntryPoints.plainConversions.toRendering (toolCall name arguments)
    headers (met rzpOrder) store

end Sample

open Sample ControlPlane.Sample in
/-- An order with an amount is answered. -/
theorem gateway_answers_order :
    ToolAnswered (.str "payments_create_order") (.obj [("amount", .int 500)]) (.error "") := by
  refine (gateway_answers_iff entered.1 entered.2).mpr fun _ => ⟨rfl, ?_⟩
  intro name tool hname htool
  refine ⟨[("amount", .int 500)], rfl, .inr (.inr ?_)⟩
  have hname' : name = "payments_create_order" := (Json.str.inj hname).symm
  rw [hname'] at htool
  have htype : (findTool "payments_create_order").bind McpTool.operationType ≠ none := by
    decide +kernel
  rw [htool] at htype
  exact ⟨htype, ⟨500, rfl, by decide⟩, "INR", rfl⟩

open Sample in
/-- **Calls that raise**: an order without an amount, arguments that are `null`, a listing of the
orders, and the fetch of an order that the gateway does not know. -/
theorem gateway_raises :
    (authenticateAgentCaller ControlPlane.Sample.platform ControlPlane.Sample.settings
        ControlPlane.Sample.store.agents headers true = .ok (some ControlPlane.Sample.agent) ∧
      activeMandate ControlPlane.Sample.agent ControlPlane.Sample.store =
        some ControlPlane.Sample.mandate) ∧
      ¬ ToolAnswered (.str "payments_create_order") (.obj []) (.error "") ∧
      ¬ ToolAnswered (.str "payments_create_order") .null (.error "") ∧
      ¬ ToolAnswered (.str "payments_fetch_all_orders") (.obj []) (.error "") ∧
      ¬ ToolAnswered (.str "payments_fetch_order") (.obj [("order_id", .str "order_X")])
        (.error "The id provided does not exist") := by
  have hraises : ∀ name arguments rzpOrder,
      (handleMcpJsonrpcGateway ControlPlane.Sample.platform ControlPlane.Sample.settings
        EntryPoints.plainConversions.toRendering (toolCall name arguments) headers (met rzpOrder)
        ControlPlane.Sample.store).isOk = false → ¬ ToolAnswered name arguments rzpOrder := by
    rintro name arguments rzpOrder h ⟨c, hc, -⟩
    rw [hc] at h
    cases h
  exact ⟨entered, hraises _ _ _ (by decide +kernel), hraises _ _ _ (by decide +kernel),
    hraises _ _ _ (by decide +kernel), hraises _ _ _ (by decide +kernel)⟩

end MandatePlane.McpTotality

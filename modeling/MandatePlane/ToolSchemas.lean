import MandatePlane.McpTotality
import MandatePlane.ToolReplies

/-!
# Whether the tools' schemas are enforced

A tool call should have an effect only where its arguments conform to the tool's input
schema, and be refused with an error otherwise.  The gateway checks that every key is
declared.  Required keys and the types of values it leaves to what comes after.
-/

namespace MandatePlane.ToolSchemas

open DomainModel KeyedTable JsonValue HostEnvironment CallerAuth OperationRoutes AgentChat
open McpCatalog McpGateway AuthenticatedEntry McpTotality ToolReplies

/-! ### What conforms -/

/-- **The arguments conform to the tool's `inputSchema`**: every key is declared and its value has
the declared type, and every required key is present. -/
def conforms (tool : McpTool) (fields : Dict) : Bool :=
  (fields.all fun field => (tool.properties.lookup field.1).any fun type => admits type field.2) &&
    tool.required.all fun key => (fields.lookup key).isSome

/-! ### The law -/

/-- The request calls the tool with these arguments. -/
structure Calls (request : McpJsonRpcRequest) (tool : McpTool) (fields : Dict) : Prop where
  method : request.method = "tools/call"
  name : dictGet request.params "name" .null = .str tool.name
  arguments : dictGet request.params "arguments" (.obj []) = .obj fields

/-- The call leaves something behind: a changed store, or something observed on the way. -/
def Acts (env : Platform) (settings : Settings) (host : Rendering) (request : McpJsonRpcRequest)
    (headers : CallerHeaders) (inputs : McpInputs) (s : Store) : Prop :=
  ∃ c, handleMcpJsonrpcGateway env settings host request headers inputs s = .ok c ∧
    (c.store ≠ s ∨ c.events ≠ [])

/-- The call asks the gateway for an order. -/
def AsksGateway (host : Rendering) (agent : Agent) (mandate : Mandate) (tool : McpTool)
    (fields : Dict) (inputs : McpInputs) : Prop :=
  ∃ orderId, toolRequest host agent mandate (.str tool.name) (.obj fields) inputs.hex =
    .ok (.ok (.fetchOrder orderId))

/-- **Strict**: the call has an effect only if the arguments conform, and is refused with an error,
without any change, if they do not. -/
structure Strict (env : Platform) (settings : Settings) (host : Rendering) (agent : Agent)
    (mandate : Mandate) (tool : McpTool) (fields : Dict) (request : McpJsonRpcRequest)
    (headers : CallerHeaders) (inputs : McpInputs) (s : Store) : Prop where
  effects : Acts env settings host request headers inputs s ∨
    AsksGateway host agent mandate tool fields inputs → conforms tool fields = true
  refused : conforms tool fields ≠ true → ∃ error,
    handleMcpJsonrpcGateway env settings host request headers inputs s =
      .ok ⟨⟨request.id, .error error⟩, s, []⟩

/-- The ids of a call are new: no stored operation has one of them. -/
def FreshIds (inputs : McpInputs) (s : Store) : Prop :=
  ∀ op ∈ s.operations.rows, op.id ≠ inputs.request.id ∧
    op.operationId ≠ inputs.request.operationId ∧
    op.idempotencyKey ≠ s!"idemp_mcp_{inputs.hex.text}"

/-- **Shut out**: the pipeline does not let the caller in with the stored hash of its key. -/
def ShutOut (env : Platform) (settings : Settings) (s : Store) (agent : Agent) : Prop :=
  ∀ payload : OperationCreate, payload.agentId = agent.id →
    authenticateRequest env settings payload (gatewayHeaders agent) s.agents ≠ .ok ()

section Calls

variable {env : Platform} {settings : Settings} {host : Rendering} {request : McpJsonRpcRequest}
  {headers : CallerHeaders} {inputs : McpInputs} {s : Store} {agent : Agent} {mandate : Mandate}
  {tool : McpTool} {fields : Dict} {payload : OperationCreate}

/-- What the endpoint does with a call of a registered tool. -/
theorem handle_call (hauth : authenticateAgentCaller env settings s.agents headers true =
      .ok (some agent)) (hmandate : activeMandate agent s = some mandate)
    (hcall : Calls request tool fields) :
    handleMcpJsonrpcGateway env settings host request headers inputs s =
      (toolRequest host agent mandate (.str tool.name) (.obj fields) inputs.hex >>=
        answerRouted env settings host agent (.str tool.name) inputs s).map fun c =>
          ⟨⟨request.id, c.value⟩, c.store, c.events⟩ := by
  have hmethod : handleMethod env settings host agent mandate request inputs s =
      dispatchMcpToolCall env settings host agent mandate (.str tool.name) (.obj fields) inputs
        s := by
    unfold handleMethod
    rw [hcall.method, hcall.name, hcall.arguments]
    rfl
  unfold handleMcpJsonrpcGateway answerMcp
  simp only [hauth, hmandate, hmethod, dispatch_eq]

/-- A call that is refused has no effect, so the law is about the refusals. -/
theorem strict_iff (hauth : authenticateAgentCaller env settings s.agents headers true =
      .ok (some agent)) (hmandate : activeMandate agent s = some mandate)
    (hcall : Calls request tool fields) :
    Strict env settings host agent mandate tool fields request headers inputs s ↔
      (conforms tool fields ≠ true → ∃ error,
        (toolRequest host agent mandate (.str tool.name) (.obj fields) inputs.hex >>=
          answerRouted env settings host agent (.str tool.name) inputs s) =
            .ok ⟨.error error, s, []⟩) := by
  have hhandle := @handle_call env settings host request headers inputs s agent mandate tool fields
    hauth hmandate hcall
  constructor
  · intro h hnot
    obtain ⟨error, herror⟩ := h.refused hnot
    rw [hhandle] at herror
    obtain ⟨c, hc, heq⟩ := except_map_eq_ok herror
    refine ⟨error, hc.trans ?_⟩
    obtain ⟨value, store, events⟩ := c
    simp only [Committed.mk.injEq, McpJsonRpcResponse.mk.injEq, true_and] at heq
    obtain ⟨rfl, rfl, rfl⟩ := heq
    rfl
  · intro h
    have hrefused : conforms tool fields ≠ true → ∃ error,
        handleMcpJsonrpcGateway env settings host request headers inputs s =
          .ok ⟨⟨request.id, .error error⟩, s, []⟩ := by
      intro hnot
      obtain ⟨error, herror⟩ := h hnot
      rw [hhandle, herror]
      exact ⟨error, rfl⟩
    refine ⟨fun heffect => ?_, hrefused⟩
    by_contra hnot
    rcases heffect with ⟨c, hc, hacts⟩ | ⟨orderId, hasks⟩
    · obtain ⟨error, herror⟩ := hrefused hnot
      cases hc.symm.trans herror
      rcases hacts with hacts | hacts <;> exact hacts rfl
    · obtain ⟨error, herror⟩ := h hnot
      rw [hasks] at herror
      simp only [bind, Except.bind, answerRouted, fulfil] at herror
      split at herror <;> cases herror

/-- Whether the pipeline lets a caller in depends on the caller alone. -/
theorem shutOut_of_refused (hid : payload.agentId = agent.id)
    (h : authenticateRequest env settings payload (gatewayHeaders agent) s.agents ≠ .ok ()) :
    ShutOut env settings s agent := by
  intro other hother
  have hsame : authenticateRequest env settings other (gatewayHeaders agent) s.agents =
      authenticateRequest env settings payload (gatewayHeaders agent) s.agents := by
    unfold authenticateRequest
    rw [hother, hid]
  rw [hsame]
  exact h

/-- A row whose id and keys are new can be inserted. -/
theorem insertOperation_of_fresh {row : FinancialOperation}
    (h : ∀ op ∈ s.operations.rows, op.id ≠ row.id ∧ op.operationId ≠ row.operationId ∧
      op.idempotencyKey ≠ row.idempotencyKey) :
    ∃ s₁, s.insertOperation row = some s₁ := by
  cases hinsert : s.operations.insert row with
  | some operations =>
    exact ⟨_, Store.insertOperation_eq_some_iff.mpr
      ⟨fun op hop => (h op hop).2, operations, hinsert, rfl⟩⟩
  | none =>
    obtain ⟨op, hop⟩ := Table.insert_eq_none_iff.mp hinsert
    have hid : op.id = row.id := Table.key_of_find? hop
    exact absurd hid (h op (Table.mem_of_find? hop)).1

/-- With new ids the pipeline processes what the gateway makes of a caller's call. -/
theorem processable_of_fresh (hfresh : FreshIds inputs s)
    (hauth : authenticateAgentCaller env settings s.agents headers true = .ok (some agent))
    (hmandate : activeMandate agent s = some mandate)
    (hkey : payload.idempotencyKey = s!"idemp_mcp_{inputs.hex.text}")
    (hids : payload.agentId = agent.id ∧ payload.mandateId = mandate.id) :
    Processable env s payload inputs.request := by
  have hinsert : ∃ s₁, s.insertOperation (newOperation env payload inputs.request) = some s₁ := by
    refine insertOperation_of_fresh fun op hop => ⟨(hfresh op hop).1, (hfresh op hop).2.1, ?_⟩
    show op.idempotencyKey ≠ payload.idempotencyKey
    rw [hkey]
    exact (hfresh op hop).2.2
  refine ⟨?_, ⟨mandate, ?_⟩, ⟨agent, ?_⟩, hinsert⟩
  · rw [Store.operationByIdempotencyKey, scalarOneOrFail_eq_ok]
    refine List.filter_eq_nil_iff.mpr fun op hop htaken => (hfresh op hop).2.2 ?_
    rw [← hkey]
    exact of_decide_eq_true htaken
  · rw [hids.2]
    exact find?_of_activeMandate hmandate
  · rw [hids.1]
    exact find?_of_authenticated hauth

/-- What validates is the caller's operation, under the key of the call. -/
theorem validateOperation_key {key agentId mandateId : String}
    {operationType : Option OperationType} {amount currency : Json}
    (h : validateOperation host key agentId mandateId operationType amount currency fields =
      .ok payload) : payload.idempotencyKey = key := by
  unfold validateOperation at h
  split at h
  · split at h
    · cases h
      rfl
    · cases h
  · cases h

/-- **An operation of the caller is refused, without any change, exactly if the caller is shut
out.** -/
theorem operation_refused_iff (hfresh : FreshIds inputs s)
    (hauth : authenticateAgentCaller env settings s.agents headers true = .ok (some agent))
    (hmandate : activeMandate agent s = some mandate)
    (hkey : payload.idempotencyKey = s!"idemp_mcp_{inputs.hex.text}")
    (hids : payload.agentId = agent.id ∧ payload.mandateId = mandate.id) (toolName : Json) :
    (∃ error, fulfil env settings host agent toolName inputs s (.operation payload) =
        .ok ⟨.error error, s, []⟩) ↔ ShutOut env settings s agent := by
  by_cases hadmitted :
    authenticateRequest env settings payload (gatewayHeaders agent) s.agents = .ok ()
  · obtain ⟨done, _, _, _, hrun, hrequested⟩ := requested_of_processable hadmitted
      (processable_of_fresh hfresh hauth hmandate hkey hids)
    refine iff_of_false (fun ⟨error, herror⟩ => ?_) (fun h => h payload hids.1 hadmitted)
    simp only [fulfil, hrun] at herror
    exact (added_of_requested hrequested).ne (congrArg Committed.store (Except.ok.inj herror))
  · refine iff_of_true ?_ (shutOut_of_refused hids.1 hadmitted)
    have hends : Ends (requestFinancialOperation env settings payload (gatewayHeaders agent)
      inputs.request s) := requestFinancialOperation_ends
    cases hrun : requestFinancialOperation env settings payload (gatewayHeaders agent)
        inputs.request s with
    | ok done =>
      obtain ⟨admitted, hok, -⟩ := bind_eq_ok.mp hrun
      exact absurd hok hadmitted
    | error refusal =>
      cases refusal with
      | noReturn => exact absurd hrun hends
      | serverError =>
        simp only [fulfil, hrun]
        exact ⟨_, rfl⟩
      | http status detail =>
        simp only [fulfil, hrun]
        exact ⟨_, rfl⟩

/-- **A call of a registered tool is refused, without any change, exactly** where it has a key that
the schema does not declare, where it asks for a payout, or where it makes an operation of a caller
that is shut out. -/
theorem call_refused_iff (htool : tool ∈ razorpayMcpToolRegistry) (hfresh : FreshIds inputs s)
    (hauth : authenticateAgentCaller env settings s.agents headers true = .ok (some agent))
    (hmandate : activeMandate agent s = some mandate) :
    (∃ error, (toolRequest host agent mandate (.str tool.name) (.obj fields) inputs.hex >>=
        answerRouted env settings host agent (.str tool.name) inputs s) =
          .ok ⟨.error error, s, []⟩) ↔
      unexpectedArgument tool fields ≠ none ∨ tool.name = "payouts_create" ∨
        MakesOperation host tool fields ∧ ShutOut env settings s agent := by
  have hfind := findTool_of_mem htool
  have htype := operationType_of_direct hfind
  rw [toolRequest_registered hfind]
  cases hunexpected : unexpectedArgument tool fields with
  | some key => exact iff_of_true ⟨_, rfl⟩ (.inl (Option.some_ne_none key))
  | none =>
    simp only [ne_eq, not_true_eq_false, false_or]
    unfold routeTool
    by_cases horder : tool.name = "payments_fetch_order"
    · have hnone := htype (.inl horder)
      rw [if_pos ⟨hnone, horder⟩]
      refine iff_of_false ?_ ?_
      · rintro ⟨error, herror⟩
        simp only [bind, Except.bind, answerRouted, fulfil] at herror
        split at herror <;> cases herror
      · simp [horder, hnone, MakesOperation]
    · rw [if_neg fun h => horder h.2]
      by_cases hpayment : tool.name = "payments_fetch_payment"
      · have hnone := htype (.inr (.inl hpayment))
        rw [if_pos ⟨hnone, hpayment⟩]
        refine iff_of_false ?_ ?_
        · rintro ⟨error, herror⟩
          simp only [bind, Except.bind, answerRouted, fulfil] at herror
          cases herror
        · simp [hpayment, hnone, MakesOperation]
      · rw [if_neg fun h => hpayment h.2]
        by_cases hpayout : tool.name = "payouts_create"
        · rw [if_pos ⟨htype (.inr (.inr hpayout)), hpayout⟩]
          exact iff_of_true ⟨_, rfl⟩ (.inl hpayout)
        · rw [if_neg fun h => hpayout h.2, or_iff_right hpayout]
          have hvalidates := @validateOperation_isOk host fields s!"idemp_mcp_{inputs.hex.text}"
            agent.id mandate.id (key_length inputs.hex) tool.operationType
            (dictGet fields "amount" (.int 0)) (dictGet fields "currency" (.str "INR"))
          cases hvalid : validateOperation host s!"idemp_mcp_{inputs.hex.text}" agent.id mandate.id
              tool.operationType (dictGet fields "amount" (.int 0))
              (dictGet fields "currency" (.str "INR")) fields with
          | error refusal =>
            rw [hvalid] at hvalidates
            refine iff_of_false ?_ fun h => ?_
            · rintro ⟨error, herror⟩
              cases herror
            · obtain ⟨payload, hpayload⟩ := hvalidates.mpr h.1
              cases hpayload
          | ok payload =>
            rw [hvalid] at hvalidates
            have hmakes : MakesOperation host tool fields := hvalidates.mp ⟨payload, rfl⟩
            rw [and_iff_right hmakes]
            exact operation_refused_iff hfresh hauth hmandate (validateOperation_key hvalid)
              (validateOperation_ids hvalid) (.str tool.name)

/-- **Schemas are enforced exactly** where the arguments conform, where a key is not declared, where
the tool is the payout, or where the caller is shut out of the pipeline that the call reaches. -/
theorem schemas_strict_iff (htool : tool ∈ razorpayMcpToolRegistry)
    (hauth : authenticateAgentCaller env settings s.agents headers true = .ok (some agent))
    (hmandate : activeMandate agent s = some mandate) (hcall : Calls request tool fields)
    (hfresh : FreshIds inputs s) :
    Strict env settings host agent mandate tool fields request headers inputs s ↔
      conforms tool fields = true ∨ unexpectedArgument tool fields ≠ none ∨
        tool.name = "payouts_create" ∨
          MakesOperation host tool fields ∧ ShutOut env settings s agent := by
  rw [strict_iff hauth hmandate hcall, call_refused_iff htool hfresh hauth hmandate]
  by_cases h : conforms tool fields = true
  · exact iff_of_true (fun hnot => absurd h hnot) (.inl h)
  · rw [or_iff_right h]
    exact ⟨fun hrefused => hrefused h, fun hrefused _ => hrefused⟩

end Calls

namespace Sample

open ControlPlane.Sample

/-- A tool call of the sample world. -/
def request (tool : McpTool) (fields : Dict) : McpJsonRpcRequest :=
  ⟨.int 1, "tools/call", [("name", .str tool.name), ("arguments", .obj fields)]⟩

def tool (name : String) : McpTool :=
  (findTool name).getD ⟨name, "", none, [], []⟩

def StrictCall (name : String) (fields : Dict) : Prop :=
  Strict platform settings EntryPoints.plainConversions.toRendering ControlPlane.Sample.agent
    ControlPlane.Sample.mandate (tool name) fields (request (tool name) fields)
    McpTotality.Sample.headers (McpTotality.Sample.met (.error "")) store

/-- Whether the call is answered with a result. -/
def granted (name : String) (fields : Dict) : Bool :=
  match handleMcpJsonrpcGateway platform settings EntryPoints.plainConversions.toRendering
      (request (tool name) fields) McpTotality.Sample.headers (McpTotality.Sample.met (.error ""))
      store with
  | .ok c => c.value.answer.isOk
  | .error _ => false

/-- A call with arguments that do not conform and that is granted breaks the law. -/
theorem not_strict_of_granted {name : String} {fields : Dict}
    (hnot : conforms (tool name) fields = false) (hgranted : granted name fields = true) :
    ¬ StrictCall name fields := by
  intro h
  obtain ⟨error, herror⟩ := h.refused (by rw [hnot]; decide)
  unfold granted at hgranted
  rw [herror] at hgranted
  cases hgranted

end Sample

open Sample ControlPlane.Sample in
/-- An order with an amount and a currency is strict. -/
theorem schemas_strict_order :
    StrictCall "payments_create_order" [("amount", .int 500), ("currency", .str "INR")] := by
  have hfresh : FreshIds (McpTotality.Sample.met (.error "")) store :=
    fun op hop => absurd hop List.not_mem_nil
  have hmem : tool "payments_create_order" ∈ razorpayMcpToolRegistry := by
    decide +kernel
  refine (schemas_strict_iff hmem McpTotality.Sample.entered.1 McpTotality.Sample.entered.2
    ⟨rfl, rfl, rfl⟩ hfresh).mpr (.inl ?_)
  decide +kernel

open Sample in
/-- **Calls that are granted against the schema**: an order without the required currency, an order
whose notes are a number, and the details of a payment without its id. -/
theorem not_schemas_strict :
    ¬ StrictCall "payments_create_order" [("amount", .int 500)] ∧
      ¬ StrictCall "payments_create_order"
        [("amount", .int 500), ("currency", .str "INR"), ("notes", .int 5)] ∧
      ¬ StrictCall "payments_fetch_payment" [] :=
  ⟨not_strict_of_granted (by decide +kernel) (by decide +kernel),
    not_strict_of_granted (by decide +kernel) (by decide +kernel),
    not_strict_of_granted (by decide +kernel) (by decide +kernel)⟩

end MandatePlane.ToolSchemas

import MandatePlane.McpGateway

/-!
# Listed tools and callable tools

`tools/list` shows a tool when its category is open to the agent and its operation type
is on the mandate's list; `tools/call` asks for neither.  It lets two reads through for
everybody, turns every other read away, and leaves an operation to the operation type
rule, which takes an empty list for no restriction.
-/

namespace MandatePlane.ToolAgreement

open DomainModel JsonValue HostEnvironment PolicyEngine OperationRoutes McpCatalog McpGateway

/-! ### Well-formed arguments -/

/-- **Well-formed**: the arguments meet the input schema of the tool. -/
structure WellFormed (tool : McpTool) (arguments : Dict) : Prop where
  declared : ∀ key value, (key, value) ∈ arguments →
    ∃ type, (key, type) ∈ tool.properties ∧ admits type value = true
  complete : ∀ key ∈ tool.required, key ∈ arguments.map Prod.fst

theorem unexpectedArgument_of_wellFormed {tool : McpTool} {arguments : Dict}
    (h : WellFormed tool arguments) : unexpectedArgument tool arguments = none := by
  unfold unexpectedArgument
  rw [List.find?_eq_none]
  intro key hkey
  obtain ⟨⟨key', value⟩, hmem, rfl⟩ := List.mem_map.mp hkey
  obtain ⟨type, htype, -⟩ := h.declared _ _ hmem
  have hdeclared : key' ∈ tool.properties.map Prod.fst := List.mem_map.mpr ⟨_, htype, rfl⟩
  simp [hdeclared]

theorem mem_of_lookup {d : Dict} {key : String} {value : Json} (h : d.lookup key = some value) :
    (key, value) ∈ d := by
  obtain ⟨before, after, rfl, -⟩ := List.lookup_eq_some_iff.mp h
  simp

/-- The amount the pipeline is asked for, where the arguments are well-formed. -/
def amountOf (arguments : Dict) : ℤ :=
  match arguments.lookup "amount" with
  | some (.int n) => n
  | _ => 0

theorem readInt_amount (host : Rendering) {tool : McpTool} {arguments : Dict}
    (hmem : tool ∈ razorpayMcpToolRegistry) (h : WellFormed tool arguments) :
    host.readInt (dictGet arguments "amount" (.int 0)) = some (amountOf arguments) := by
  unfold dictGet amountOf
  cases hlookup : arguments.lookup "amount" with
  | none => rfl
  | some value =>
    obtain ⟨type, htype, hadmits⟩ := h.declared _ _ (mem_of_lookup hlookup)
    have hall : ∀ tool ∈ razorpayMcpToolRegistry, ∀ property ∈ tool.properties,
        property.1 = "amount" → property.2 = .integer := by
      decide +kernel
    obtain rfl : type = .integer := hall tool hmem _ htype rfl
    cases value with
    | int n => rfl
    | _ => cases hadmits

theorem currency_text {tool : McpTool} {arguments : Dict}
    (hmem : tool ∈ razorpayMcpToolRegistry) (h : WellFormed tool arguments) :
    ∃ currency, dictGet arguments "currency" (.str "INR") = .str currency := by
  unfold dictGet
  cases hlookup : arguments.lookup "currency" with
  | none => exact ⟨"INR", rfl⟩
  | some value =>
    obtain ⟨type, htype, hadmits⟩ := h.declared _ _ (mem_of_lookup hlookup)
    have hall : ∀ tool ∈ razorpayMcpToolRegistry, ∀ property ∈ tool.properties,
        property.1 = "currency" → property.2 = .string := by
      decide +kernel
    obtain rfl : type = .string := hall tool hmem _ htype rfl
    cases value with
    | str currency => exact ⟨currency, rfl⟩
    | _ => cases hadmits

/-! ### Getting past authorization -/

/-- The call gets past authorization: it is a read that is let through, or an operation that the
operation type rule admits. -/
def Admitted (env : Platform) (mandate : Mandate) (inputs : RequestInputs) :
    Except Refusal (Except RpcError ToolRequest) → Prop
  | .ok (.ok (.fetchOrder _)) => True
  | .ok (.ok (.describePayment _)) => True
  | .ok (.ok (.operation payload)) =>
    (allowedOperationTypeRule mandate (newOperation env payload inputs)).decision = .allow
  | _ => False

/-- `tools/call` of the tool gets past authorization. -/
def GetsPast (env : Platform) (host : Rendering) (agent : Agent) (mandate : Mandate)
    (tool : McpTool) (arguments : Dict) (inputs : McpInputs) : Prop :=
  Admitted env mandate inputs.request
    (toolRequest host agent mandate (.str tool.name) (.obj arguments) inputs.hex)

/-- The reads that have a branch of their own. -/
def answeredReads : List String := ["payments_fetch_order", "payments_fetch_payment"]

theorem allowedOperationTypeRule_allow {mandate : Mandate} {operation : FinancialOperation} :
    (allowedOperationTypeRule mandate operation).decision = .allow ↔
      mandate.allowedOperations = [] ∨
        operation.operationType.value ∈ mandate.allowedOperations := by
  unfold allowedOperationTypeRule
  dsimp only
  split
  · rename_i h
    simp only [denied, reduceCtorEq, false_iff, not_or]
    exact h
  · rename_i h
    simp only [allowed, true_iff]
    exact Decidable.or_iff_not_imp_left.mpr fun hne => by
      by_contra hnot
      exact h ⟨hne, hnot⟩

theorem toolRequest_of_wellFormed {host : Rendering} {agent : Agent} {mandate : Mandate}
    {tool : McpTool} {arguments : Dict} {hex : UuidHex} (hmem : tool ∈ razorpayMcpToolRegistry)
    (h : WellFormed tool arguments) :
    toolRequest host agent mandate (.str tool.name) (.obj arguments) hex =
      routeTool host agent mandate tool arguments hex := by
  have hlookup : lookupTool (.str tool.name) = .ok (some tool) :=
    congrArg Except.ok (findTool_of_mem hmem)
  unfold toolRequest
  rw [hlookup]
  simp only [argumentsOf, bind, Except.bind, unexpectedArgument_of_wellFormed h]

/-- **What a well-formed call meets.**  A read passes if it has a branch of its own; an operation
passes if its amount is positive and the mandate lists no type or its type. -/
theorem getsPast_iff {env : Platform} {host : Rendering} {agent : Agent} {mandate : Mandate}
    {tool : McpTool} {arguments : Dict} {inputs : McpInputs}
    (hmem : tool ∈ razorpayMcpToolRegistry) (h : WellFormed tool arguments) :
    GetsPast env host agent mandate tool arguments inputs ↔
      match tool.operationType with
      | none => tool.name ∈ answeredReads
      | some opType => 0 < amountOf arguments ∧
          (mandate.allowedOperations = [] ∨ opType.value ∈ mandate.allowedOperations) := by
  unfold GetsPast
  rw [toolRequest_of_wellFormed hmem h]
  unfold routeTool
  cases htype : tool.operationType with
  | none =>
    simp only [true_and, answeredReads, List.mem_cons, List.not_mem_nil, or_false]
    by_cases horder : tool.name = "payments_fetch_order"
    · simp [horder, Admitted]
    · by_cases hpayment : tool.name = "payments_fetch_payment"
      · simp [hpayment, Admitted]
      · simp only [horder, hpayment, if_false, or_self, iff_false]
        split
        · exact not_false
        · exact not_false
  | some opType =>
    simp only [reduceCtorEq, false_and, if_false]
    obtain ⟨currency, hcurrency⟩ := currency_text hmem h
    unfold validateOperation
    rw [readInt_amount host hmem h, hcurrency]
    dsimp only
    by_cases hpos : 0 < amountOf arguments
    · rw [dif_pos ⟨key_length inputs.hex, hpos⟩]
      show (allowedOperationTypeRule mandate _).decision = .allow ↔ _
      rw [allowedOperationTypeRule_allow]
      simp [hpos, newOperation]
    · rw [dif_neg fun hvalid => hpos hvalid.2]
      simp [hpos, Except.map, Admitted]

/-! ### When list and call agree -/

/-- **The agreement condition.**  A read with a branch of its own agrees while its category is
open to the agent, any other read while it is closed.  An operation of positive amount agrees
under a mandate that lists some type and, if it lists this one, opens the tool's category; one
without a positive amount agrees unless its type is listed and its category open. -/
def AgreesWhen (agent : Agent) (mandate : Mandate) (tool : McpTool) (arguments : Dict) : Prop :=
  let openToAgent := Open agent.agentType mandate.allowedOperations tool.category
  match tool.operationType with
  | none => if tool.name ∈ answeredReads then openToAgent else ¬ openToAgent
  | some opType =>
    if 0 < amountOf arguments then
      mandate.allowedOperations ≠ [] ∧ (opType.value ∈ mandate.allowedOperations → openToAgent)
    else ¬ (opType.value ∈ mandate.allowedOperations ∧ openToAgent)

/-- **List and call agree exactly under the condition.** -/
theorem list_call_agree_iff {env : Platform} {host : Rendering} {agent : Agent}
    {mandate : Mandate} {tool : McpTool} {arguments : Dict} {inputs : McpInputs}
    (hmem : tool ∈ razorpayMcpToolRegistry) (h : WellFormed tool arguments) :
    (GetsPast env host agent mandate tool arguments inputs ↔
        tool ∈ getFilteredMcpTools agent mandate) ↔
      AgreesWhen agent mandate tool arguments := by
  rw [getsPast_iff hmem h, mem_getFilteredMcpTools]
  unfold AgreesWhen
  dsimp only
  cases tool.operationType with
  | none =>
    by_cases hread : tool.name ∈ answeredReads
    · simp [hread, hmem]
    · simp [hread, hmem]
  | some opType =>
    by_cases hpos : 0 < amountOf arguments
    · simp only [hpos, hmem, true_and, if_true, Option.some.injEq, forall_eq']
      by_cases hempty : mandate.allowedOperations = []
      · simp [hempty]
      · simp only [hempty, false_or, ne_eq, not_false_iff, true_and]
        exact ⟨fun hiff hlisted => (hiff.mp hlisted).1,
          fun hopen => ⟨fun hlisted => ⟨hopen hlisted, hlisted⟩, fun hboth => hboth.2⟩⟩
    · simp only [hpos, hmem, true_and, if_false, false_and, Option.some.injEq, forall_eq',
        false_iff]
      rw [and_comm]

/-! ### An order under an empty list and under its own type -/

section Sample

open ControlPlane.Sample

def plainHost : Rendering := ⟨fun _ => none, fun _ => "", fun _ => ""⟩

def mcpInputs : McpInputs where
  hex := ⟨"00000000000000000000000000000000", McpGateway.Sample.zeros_length⟩
  rzpOrder := .error ""
  request := inputs "operation_A" "order_A" 600

/-- `payments_create_order`, the first tool of the registry. -/
def orderTool : McpTool :=
  { name := "payments_create_order", category := "ORDERS", operationType := some .createOrder
    properties := [("amount", .integer), ("currency", .string), ("receipt", .string),
      ("notes", .object)]
    required := ["amount", "currency"] }

theorem orderTool_mem : orderTool ∈ razorpayMcpToolRegistry := List.mem_cons_self

def orderArguments : Dict := [("amount", .int 600), ("currency", .str "INR")]

theorem orderArguments_wellFormed : WellFormed orderTool orderArguments where
  declared key value hmem := by
    simp only [orderArguments, List.mem_cons, Prod.mk.injEq, List.not_mem_nil, or_false] at hmem
    rcases hmem with ⟨rfl, rfl⟩ | ⟨rfl, rfl⟩
    · exact ⟨.integer, by decide +kernel, rfl⟩
    · exact ⟨.string, by decide +kernel, rfl⟩
  complete := by decide +kernel

/-- The mandate of before, for orders only. -/
def orderMandate : Mandate := { mandate with allowedOperations := ["CREATE_ORDER"] }

theorem list_call_agree_on_order :
    GetsPast platform plainHost agent orderMandate orderTool orderArguments mcpInputs ↔
      orderTool ∈ getFilteredMcpTools agent orderMandate :=
  (list_call_agree_iff orderTool_mem orderArguments_wellFormed).mpr <| by
    have hpos : 0 < amountOf orderArguments := by decide
    simp only [AgreesWhen, orderTool, hpos, if_true]
    exact ⟨List.cons_ne_nil _ _,
      fun _ => .inl ⟨"CREATE_ORDER", List.mem_cons_self, by decide +kernel⟩⟩

/-- Under a mandate that lists no type an order is admitted and its tool is not shown. -/
theorem not_agreeing_under_empty_list :
    WellFormed orderTool orderArguments ∧
      ¬ (GetsPast platform plainHost agent mandate orderTool orderArguments mcpInputs ↔
        orderTool ∈ getFilteredMcpTools agent mandate) := by
  refine ⟨orderArguments_wellFormed, fun hiff => ?_⟩
  have hpast : GetsPast platform plainHost agent mandate orderTool orderArguments mcpInputs :=
    (getsPast_iff orderTool_mem orderArguments_wellFormed).mpr ⟨by decide, .inl rfl⟩
  have hlisted := (mem_getFilteredMcpTools.mp (hiff.mp hpast)).2.2 .createOrder rfl
  exact absurd hlisted (by decide +kernel)

end Sample

end MandatePlane.ToolAgreement

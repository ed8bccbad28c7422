import MandatePlane.DomainModel
import Mathlib.Tactic.SplitIfs

/-!
# The catalog of gateway tools

The tools an agent can call by name, with the functional category, the operation type
and the input schema of each, and the part of the catalog that `tools/list` shows for
a mandate.  Descriptions are left out: nothing reads them but the caller.
-/

namespace MandatePlane.McpCatalog

open DomainModel

/-! ### Tools -/

/-- The `type` of an input schema's property. -/
inductive SchemaType where
  | string | integer | object | boolean
  deriving DecidableEq

structure McpTool where
  name : String
  category : String
  operationType : Option OperationType
  properties : List (String × SchemaType)
  required : List String
  deriving DecidableEq

/-- `RAZORPAY_MCP_TOOL_REGISTRY`, in insertion order. -/
def razorpayMcpToolRegistry : List McpTool :=
  [ -- orders and payments
    { name := "payments_create_order", category := "ORDERS", operationType := some .createOrder
      properties := [("amount", .integer), ("currency", .string), ("receipt", .string),
        ("notes", .object)]
      required := ["amount", "currency"] },
    { name := "payments_fetch_order", category := "ORDERS", operationType := none
      properties := [("order_id", .string)], required := ["order_id"] },
    { name := "payments_fetch_all_orders", category := "ORDERS", operationType := none
      properties := [("count", .integer)], required := [] },
    { name := "payments_fetch_payment", category := "PAYMENTS", operationType := none
      properties := [("payment_id", .string)], required := ["payment_id"] },
    { name := "payments_fetch_all_payments", category := "PAYMENTS", operationType := none
      properties := [("count", .integer)], required := [] },
    { name := "payments_capture_payment", category := "PAYMENTS"
      operationType := some .capturePayment
      properties := [("payment_id", .string), ("amount", .integer), ("currency", .string)]
      required := ["payment_id", "amount"] },
    -- payment links
    { name := "payments_create_payment_link", category := "PAYMENT_LINKS"
      operationType := some .createPaymentLink
      properties := [("amount", .integer), ("currency", .string), ("description", .string),
        ("customer_name", .string), ("customer_email", .string), ("customer_contact", .string),
        ("notes", .object)]
      required := ["amount", "currency", "description"] },
    { name := "payments_fetch_payment_link", category := "PAYMENT_LINKS", operationType := none
      properties := [("payment_link_id", .string)], required := ["payment_link_id"] },
    { name := "payments_cancel_payment_link", category := "PAYMENT_LINKS"
      operationType := some .cancelPaymentLink
      properties := [("payment_link_id", .string)], required := ["payment_link_id"] },
    -- refunds
    { name := "payments_create_refund", category := "REFUNDS", operationType := some .createRefund
      properties := [("payment_id", .string), ("amount", .integer), ("notes", .object)]
      required := ["payment_id"] },
    { name := "payments_fetch_refund", category := "REFUNDS", operationType := none
      properties := [("refund_id", .string)], required := ["refund_id"] },
    { name := "payments_fetch_all_refunds", category := "REFUNDS", operationType := none
      properties := [("count", .integer)], required := [] },
    -- QR codes
    { name := "qr_codes_create", category := "QR_CODES", operationType := some .createOrder
      properties := [("type", .string), ("name", .string), ("usage", .string),
        ("fixed_amount", .boolean), ("payment_amount", .integer)]
      required := ["type", "name", "usage"] },
    { name := "qr_codes_fetch_by_id", category := "QR_CODES", operationType := none
      properties := [("qr_id", .string)], required := ["qr_id"] },
    { name := "qr_codes_close", category := "QR_CODES", operationType := none
      properties := [("qr_id", .string)], required := ["qr_id"] },
    -- settlements
    { name := "settlements_fetch_all", category := "SETTLEMENTS", operationType := none
      properties := [("count", .integer)], required := [] },
    { name := "settlements_fetch_by_id", category := "SETTLEMENTS", operationType := none
      properties := [("settlement_id", .string)], required := ["settlement_id"] },
    { name := "settlements_fetch_combined_report", category := "SETTLEMENTS"
      operationType := none
      properties := [("year", .integer), ("month", .integer)], required := [] },
    -- invoices
    { name := "invoices_create", category := "INVOICES", operationType := some .createPaymentLink
      properties := [("type", .string), ("description", .string), ("amount", .integer),
        ("customer", .object)]
      required := ["type", "description", "amount"] },
    { name := "invoices_fetch_by_id", category := "INVOICES", operationType := none
      properties := [("invoice_id", .string)], required := ["invoice_id"] },
    { name := "invoices_cancel", category := "INVOICES", operationType := some .cancelPaymentLink
      properties := [("invoice_id", .string)], required := ["invoice_id"] },
    -- customers
    { name := "customers_create", category := "CUSTOMERS", operationType := none
      properties := [("name", .string), ("email", .string), ("contact", .string)]
      required := ["name", "email"] },
    { name := "customers_fetch_by_id", category := "CUSTOMERS", operationType := none
      properties := [("customer_id", .string)], required := ["customer_id"] },
    -- payouts
    { name := "payouts_create", category := "PAYOUTS", operationType := none
      properties := [("account_number", .string), ("fund_account_id", .string),
        ("amount", .integer), ("currency", .string), ("mode", .string), ("purpose", .string)]
      required := ["account_number", "amount", "currency", "mode", "purpose"] },
    { name := "payouts_fetch_by_id", category := "PAYOUTS", operationType := none
      properties := [("payout_id", .string)], required := ["payout_id"] },
    { name := "payouts_cancel", category := "PAYOUTS", operationType := none
      properties := [("payout_id", .string)], required := ["payout_id"] } ]

/-- The registry's dictionary lookup. -/
def findTool (name : String) : Option McpTool :=
  razorpayMcpToolRegistry.find? fun tool => tool.name = name

/-- The names are the keys of a dictionary, so no two tools share one. -/
theorem findTool_of_mem {tool : McpTool} (h : tool ∈ razorpayMcpToolRegistry) :
    findTool tool.name = some tool := by
  have hall : ∀ tool ∈ razorpayMcpToolRegistry, findTool tool.name = some tool := by
    decide +kernel
  exact hall tool h

/-! ### What `tools/list` shows -/

/-- The categories the allowed operations open. -/
def grantedCategories (allowedOps : List String) : List String :=
  (if "CREATE_ORDER" ∈ allowedOps then ["ORDERS"] else []) ++
  (if "CREATE_PAYMENT_LINK" ∈ allowedOps ∨ "CANCEL_PAYMENT_LINK" ∈ allowedOps then
    ["PAYMENT_LINKS"] else []) ++
  (if "CREATE_REFUND" ∈ allowedOps then ["REFUNDS"] else []) ++
  (if "CREATE_INVOICE" ∈ allowedOps then ["INVOICES"] else []) ++
  (if "CREATE_SUBSCRIPTION" ∈ allowedOps then ["SUBSCRIPTIONS"] else []) ++
  (if "PAYOUTS" ∈ allowedOps then ["PAYOUTS"] else []) ++
  (if "SETTLEMENTS" ∈ allowedOps then ["SETTLEMENTS"] else [])

/-- `allowed_categories`, with the fallback by agent type when no operation opens any. -/
def allowedCategories (agentType : String) (allowedOps : List String) : List String :=
  let granted := grantedCategories allowedOps
  if granted = [] ∧ agentType = "SHOPPING" then ["ORDERS", "PAYMENT_LINKS"]
  else if granted = [] ∧ agentType = "PROCUREMENT" then ["ORDERS"]
  else if granted = [] ∧ agentType = "SUPPORT" then ["REFUNDS"]
  else granted

/-- The operation type gate, which only mutating tools have to pass. -/
def operationTypeListed (allowedOps : List String) : Option OperationType → Bool
  | none => true
  | some opType => opType.value ∈ allowedOps

/-- `get_filtered_mcp_tools`. -/
def getFilteredMcpTools (agent : Agent) (mandate : Mandate) : List McpTool :=
  razorpayMcpToolRegistry.filter fun tool =>
    tool.category ∈ allowedCategories agent.agentType mandate.allowedOperations &&
      operationTypeListed mandate.allowedOperations tool.operationType

/-! ### Who is shown a category -/

/-- The category a single allowed operation opens. -/
def opens (op : String) : Option String :=
  if op = "CREATE_ORDER" then some "ORDERS"
  else if op = "CREATE_PAYMENT_LINK" ∨ op = "CANCEL_PAYMENT_LINK" then some "PAYMENT_LINKS"
  else if op = "CREATE_REFUND" then some "REFUNDS"
  else if op = "CREATE_INVOICE" then some "INVOICES"
  else if op = "CREATE_SUBSCRIPTION" then some "SUBSCRIPTIONS"
  else if op = "PAYOUTS" then some "PAYOUTS"
  else if op = "SETTLEMENTS" then some "SETTLEMENTS"
  else none

/-- The categories an agent's type stands for. -/
def customary (agentType : String) : List String :=
  if agentType = "SHOPPING" then ["ORDERS", "PAYMENT_LINKS"]
  else if agentType = "PROCUREMENT" then ["ORDERS"]
  else if agentType = "SUPPORT" then ["REFUNDS"]
  else []

/-- **Open to an agent**: a category that some allowed operation opens or, when no allowed
operation opens any, one that the agent's type stands for. -/
def Open (agentType : String) (allowedOps : List String) (category : String) : Prop :=
  (∃ op ∈ allowedOps, opens op = some category) ∨
    (∀ op ∈ allowedOps, opens op = none) ∧ category ∈ customary agentType

theorem mem_grantedCategories {allowedOps : List String} {category : String} :
    category ∈ grantedCategories allowedOps ↔ ∃ op ∈ allowedOps, opens op = some category := by
  constructor
  · intro h
    simp only [grantedCategories, List.mem_append, List.mem_ite_nil_right, List.mem_singleton] at h
    rcases h with (((((⟨h, rfl⟩ | ⟨h | h, rfl⟩) | ⟨h, rfl⟩) | ⟨h, rfl⟩) | ⟨h, rfl⟩) | ⟨h, rfl⟩) |
      ⟨h, rfl⟩
    all_goals exact ⟨_, h, by decide +kernel⟩
  · rintro ⟨op, hop, h⟩
    unfold opens at h
    split_ifs at h with order link refund invoice subscription payouts settlements
    all_goals obtain rfl := Option.some.inj h
    · simp [grantedCategories, ← order, hop]
    · rcases link with rfl | rfl <;> simp [grantedCategories, hop]
    · simp [grantedCategories, ← refund, hop]
    · simp [grantedCategories, ← invoice, hop]
    · simp [grantedCategories, ← subscription, hop]
    · simp [grantedCategories, ← payouts, hop]
    · simp [grantedCategories, ← settlements, hop]

theorem grantedCategories_eq_nil {allowedOps : List String} :
    grantedCategories allowedOps = [] ↔ ∀ op ∈ allowedOps, opens op = none := by
  rw [List.eq_nil_iff_forall_not_mem]
  constructor
  · intro h op hop
    cases hopens : opens op with
    | none => rfl
    | some category => exact absurd (mem_grantedCategories.mpr ⟨op, hop, hopens⟩) (h category)
  · intro h category hmem
    obtain ⟨op, hop, hopens⟩ := mem_grantedCategories.mp hmem
    rw [h op hop] at hopens
    cases hopens

/-- **The category gate lets through what is open to the agent.** -/
theorem mem_allowedCategories {agentType : String} {allowedOps : List String} {category : String} :
    category ∈ allowedCategories agentType allowedOps ↔ Open agentType allowedOps category := by
  unfold Open
  rw [← mem_grantedCategories, ← grantedCategories_eq_nil]
  unfold allowedCategories customary
  by_cases hnone : grantedCategories allowedOps = []
  · simp only [hnone, true_and, List.not_mem_nil, false_or]
  · simp [hnone]

theorem mem_getFilteredMcpTools {agent : Agent} {mandate : Mandate} {tool : McpTool} :
    tool ∈ getFilteredMcpTools agent mandate ↔ tool ∈ razorpayMcpToolRegistry ∧
      Open agent.agentType mandate.allowedOperations tool.category ∧
      ∀ opType, tool.operationType = some opType →
        opType.value ∈ mandate.allowedOperations := by
  simp only [getFilteredMcpTools, List.mem_filter, Bool.and_eq_true, decide_eq_true_eq,
    mem_allowedCategories]
  cases tool.operationType with
  | none => simp [operationTypeListed]
  | some opType => simp [operationTypeListed]

end MandatePlane.McpCatalog

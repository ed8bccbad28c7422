import MandatePlane.EntryPoints

/-!
# What the arguments of a tool call decide

The model that runs a chat turn writes tool names and arguments as it likes.  The agent and
the mandate of an operation come from the turn, the amount of a purchase from the catalog,
and a call that names no tool or no product does nothing.
-/

namespace MandatePlane.ToolAuthority

open DomainModel KeyedTable LedgerView JsonValue HostEnvironment HandlerPostings OperationRoutes
open McpGateway EntryPoints

/-! ### What a tool asks for -/

def toolNames : List String :=
  ["browse_catalog", "lookup_transaction", "create_purchase_order",
    "create_payment_link_for_customer", "issue_customer_refund"]

/-- The SKU a purchase names. -/
def productIdOf (host : Conversions) (args : Dict) : String :=
  match dictGet args "product_id" .null with
  | .null => ""
  | value => host.text value

/-- **Priced by the catalog**: the price of the named product times the quantity, which counts as
one when it is less. -/
def CatalogPriced (host : Conversions) (args : Dict) (amount : ℤ) : Prop :=
  ∃ product quantity, productsCatalog.lookup (productIdOf host args) = some product ∧
    host.toInt (dictGet args "quantity" (.int 1)) = some quantity ∧
    amount = product.pricePaise * max 1 quantity

/-- The call names no tool, or a product that is not in the catalog. -/
def Unfulfillable (host : Conversions) (call : LlmToolCall) : Prop :=
  call.name ∉ toolNames ∨ call.name = "create_purchase_order" ∧
    productsCatalog.lookup (productIdOf host call.arguments) = none

section Tools

variable {host : Conversions} {agentId mandateId key : String} {call : LlmToolCall}
  {payload : OperationCreate} {operationType : OperationType} {amount : ℤ} {fields : Dict}

/-- What is validated is what is requested. -/
theorem validateOperation_values {rendering : Rendering} {currency : Json}
    (h : validateOperation rendering key agentId mandateId (some operationType) (.int amount)
      currency fields = .ok payload) :
    payload.operationType = operationType ∧ payload.amount = amount := by
  unfold validateOperation at h
  split at h
  · rename_i type n text htype hamount
    cases htype
    cases hamount
    split at h
    · cases h
      exact ⟨rfl, rfl⟩
    · cases h
  · cases h

theorem purchaseOrder_values (h : purchaseOrder host agentId mandateId call = .ok (some payload)) :
    payload.operationType = .createOrder ∧ CatalogPriced host call.arguments payload.amount := by
  unfold purchaseOrder at h
  obtain ⟨quantity, hquantity, h⟩ := bind_eq_ok.mp h
  dsimp only at h
  split at h
  · cases h
  · rename_i product hproduct
    obtain ⟨valid, hvalid, h⟩ := bind_eq_ok.mp h
    cases h
    obtain ⟨htype, hamount⟩ := validateOperation_values hvalid
    exact ⟨htype, product, quantity, hproduct, orRefuse_eq_ok.mp hquantity, hamount⟩

/-- A product that is not in the catalog is answered, or the quantity raises. -/
theorem purchaseOrder_of_unknown
    (h : productsCatalog.lookup (productIdOf host call.arguments) = none) :
    purchaseOrder host agentId mandateId call ≠ .ok (some payload) := by
  intro hcall
  obtain ⟨-, product, quantity, hproduct, -⟩ := purchaseOrder_values hcall
  rw [h] at hproduct
  cases hproduct

theorem customerPaymentLink_type
    (h : customerPaymentLink host agentId mandateId call = .ok (some payload)) :
    payload.operationType = .createPaymentLink := by
  unfold customerPaymentLink at h
  obtain ⟨amount, -, h⟩ := bind_eq_ok.mp h
  obtain ⟨valid, hvalid, h⟩ := bind_eq_ok.mp h
  cases h
  exact (validateOperation_values hvalid).1

theorem customerRefund_type
    (h : customerRefund host agentId mandateId call = .ok (some payload)) :
    payload.operationType = .createRefund := by
  unfold customerRefund at h
  obtain ⟨amount, -, h⟩ := bind_eq_ok.mp h
  obtain ⟨valid, hvalid, h⟩ := bind_eq_ok.mp h
  cases h
  exact (validateOperation_values hvalid).1

/-- **A purchase asks for an order at the catalog's price**, and no other tool asks for an order. -/
theorem agentTool_values (h : agentTool host agentId mandateId call = .ok (some payload)) :
    (payload.operationType = .createOrder ↔ call.name = "create_purchase_order") ∧
      (call.name = "create_purchase_order" → CatalogPriced host call.arguments payload.amount) := by
  unfold agentTool at h
  split at h
  · exact absurd h (browseCatalog_ne call payload)
  · split at h
    · rename_i hname
      obtain ⟨htype, hpriced⟩ := purchaseOrder_values h
      exact ⟨iff_of_true htype hname, fun _ => hpriced⟩
    · rename_i hname
      refine ⟨iff_of_false ?_ hname, fun h => absurd h hname⟩
      split at h
      · rw [customerPaymentLink_type h]
        exact nofun
      · split at h
        · rw [customerRefund_type h]
          exact nofun
        · cases h

/-- **A call that names no tool or no product asks for nothing.** -/
theorem agentTool_of_unfulfillable (h : Unfulfillable host call) :
    agentTool host agentId mandateId call ≠ .ok (some payload) := by
  rcases h with hname | ⟨hname, hproduct⟩
  · have hne : ∀ name ∈ toolNames, call.name ≠ name := by
      intro name hmem heq
      exact hname (heq ▸ hmem)
    unfold agentTool
    rw [if_neg (hne _ (by decide)), if_neg (hne _ (by decide)), if_neg (hne _ (by decide)),
      if_neg (hne _ (by decide))]
    exact nofun
  · unfold agentTool
    rw [if_neg (by rw [hname]; decide), if_pos hname]
    exact purchaseOrder_of_unknown hproduct

end Tools

/-! ### What a turn creates -/

/-- **Authored by the turn**: the operation of a call has the turn's agent and mandate, and it is
an order, at the catalog's price, exactly if the call is a purchase. -/
structure Authored (host : Conversions) (agentId mandateId : String) (call : LlmToolCall)
    (op : FinancialOperation) : Prop where
  id : op.id = call.inputs.id
  agentId : op.agentId = agentId
  mandateId : op.mandateId = mandateId
  order : op.operationType = .createOrder ↔ call.name = "create_purchase_order"
  amount : call.name = "create_purchase_order" → CatalogPriced host call.arguments op.amount

/-- The session has a row with this id, committed or seen. -/
def Known (x : Session) (id : String) : Prop :=
  x.view.store.operations.find? id ≠ none ∨ x.committed.store.operations.find? id ≠ none

/-- Every operation was known before or is authored by one of the calls. -/
def Accounted (host : Conversions) (agentId mandateId : String) (x : Session)
    (calls : List LlmToolCall) (s : Store) : Prop :=
  ∀ op ∈ (orders s).rows, Known x op.id ∨ ∃ call ∈ calls, Authored host agentId mandateId call op

section Turn

variable {env : Platform} {settings : Settings} {host : Conversions} {agentId mandateId : String}
  {x y : Session} {done : List LlmToolCall} {s : Store}

theorem Accounted.more (h : Accounted host agentId mandateId x done s) (call : LlmToolCall) :
    Accounted host agentId mandateId x (done ++ [call]) s := by
  intro op hop
  rcases h op hop with hknown | ⟨other, hmem, hauthored⟩
  · exact .inl hknown
  · exact .inr ⟨other, List.mem_append_left _ hmem, hauthored⟩

/-- **One request**: the row it inserts is authored by its call. -/
theorem Accounted.request (h : Accounted host agentId mandateId x done s) {call : LlmToolCall}
    {payload : OperationCreate} {c : Committed FinancialOperation}
    (htool : agentTool host agentId mandateId call = .ok (some payload))
    (hrun : requestFinancialOperation env settings payload noHeaders call.inputs s = .ok c) :
    Accounted host agentId mandateId x (done ++ [call]) c.store := by
  rcases requestFinancialOperation_spec hrun with ⟨hs, -⟩ | ⟨agent, mandate, result, hreq⟩
  · rw [hs]
    exact h.more call
  · intro op hop
    rcases (Table.mem_insert hreq.ordered).mp hop with hold | rfl
    · exact h.more call op hold
    · obtain ⟨hagent, hmandate⟩ := agentTool_ids htool
      obtain ⟨horder, hamount⟩ := agentTool_values htool
      exact .inr ⟨call, by simp, rfl, hagent, hmandate, horder, hamount⟩

/-- What the session has committed and what it sees is accounted for. -/
structure AllAccounted (host : Conversions) (agentId mandateId : String) (x : Session)
    (calls : List LlmToolCall) (y : Session) : Prop where
  committed : Accounted host agentId mandateId x calls y.committed.store
  view : Accounted host agentId mandateId x calls y.view.store

theorem allAccounted_refl (x : Session) : AllAccounted host agentId mandateId x [] x := by
  have hknown {s : Store} {op : FinancialOperation} (hop : op ∈ (orders s).rows) :
      s.operations.find? op.id ≠ none := by
    obtain ⟨row, hrow, rfl⟩ := List.mem_map.mp hop
    have hfound : s.operations.find? row.id = some row := Table.find?_of_mem hrow
    show s.operations.find? row.id ≠ none
    rw [hfound]
    exact nofun
  exact ⟨fun op hop => .inl (.inr (hknown hop)), fun op hop => .inl (.inl (hknown hop))⟩

/-- **The loop over the tool calls**, whether it ends or a call raises. -/
theorem runToolCalls_accounted (calls : List LlmToolCall)
    (h : AllAccounted host agentId mandateId x done y) :
    ∀ z, (runToolCalls env settings host agentId mandateId calls y = .error z ∨
      runToolCalls env settings host agentId mandateId calls y = .ok z) →
        AllAccounted host agentId mandateId x (done ++ calls) z := by
  induction calls generalizing y done with
  | nil =>
    intro z hz
    rcases hz with hz | hz
    · cases hz
    · cases hz
      rwa [List.append_nil]
  | cons call calls ih =>
    have hmore : AllAccounted host agentId mandateId x (done ++ call :: calls) y :=
      ⟨fun op hop => (h.committed op hop).imp_right fun ⟨c, hc, ha⟩ =>
          ⟨c, List.mem_append_left _ hc, ha⟩,
        fun op hop => (h.view op hop).imp_right fun ⟨c, hc, ha⟩ =>
          ⟨c, List.mem_append_left _ hc, ha⟩⟩
    have hassoc : done ++ call :: calls = (done ++ [call]) ++ calls := by simp
    intro z hz
    rw [runToolCalls] at hz
    split at hz
    · rcases hz with hz | hz
      · cases hz
        exact hmore
      · cases hz
    · rw [hassoc]
      exact ih (y := y.addTrace ⟨agentId, call.name⟩) ⟨h.committed.more call, h.view.more call⟩ z hz
    · rename_i payload htool
      split at hz
      · rcases hz with hz | hz
        · cases hz
          exact hmore
        · cases hz
      · rename_i next hnext
        rw [hassoc]
        refine ih (y := next.addTrace ⟨agentId, call.name⟩) ?_ z hz
        -- the request commits its row, or has found its key and leaves the session
        unfold requestInSession at hnext
        split at hnext
        · cases hnext
        · rename_i c hrun
          split at hnext
          · cases hnext
            exact ⟨h.view.request htool hrun, h.view.request htool hrun⟩
          · cases hnext
            exact ⟨h.committed.more call, h.view.more call⟩

/-- **Tool arguments forge no authority.**  Every operation that a turn creates is authored by one
of its calls, under the turn's agent and mandate, and a call that names no tool or no product
changes nothing. -/
theorem arguments_forge_nothing (turn : Completions) (x : Session) :
    (∀ op ∈ (executeTurn env settings host agentId mandateId turn x).1.store.operations.rows,
      ¬ Known x op.id → ∃ calls, turn.toolCalls = some calls ∧
        ∃ call ∈ calls, Authored host agentId mandateId call op) ∧
      ∀ call, Unfulfillable host call → ∀ y z,
        (runToolCalls env settings host agentId mandateId [call] y = .error z ∨
          runToolCalls env settings host agentId mandateId [call] y = .ok z) →
            z.committed = y.committed ∧ z.view.store = y.view.store := by
  constructor
  · intro op hop hnew
    have hclaim {calls : List LlmToolCall} {s : Store}
        (h : Accounted host agentId mandateId x calls s) (hmem : op ∈ s.operations.rows) :
        ∃ call ∈ calls, Authored host agentId mandateId call op := by
      rcases h (orderOf op) (List.mem_map_of_mem hmem) with hknown | ⟨call, hcall, hauthored⟩
      · exact absurd hknown hnew
      · exact ⟨call, hcall, hauthored.id, hauthored.agentId, hauthored.mandateId,
          hauthored.order, hauthored.amount⟩
    have hstart := @allAccounted_refl host agentId mandateId x
    unfold executeTurn at hop
    cases hcalls : turn.toolCalls with
    | none =>
      rw [hcalls] at hop
      obtain ⟨call, hcall, -⟩ := hclaim hstart.committed hop
      cases hcall
    | some calls =>
      rw [hcalls] at hop
      refine ⟨calls, rfl, ?_⟩
      have hrun := @runToolCalls_accounted env settings host agentId mandateId x x [] calls hstart
      rw [List.nil_append] at hrun
      dsimp only at hop
      split at hop
      · rename_i z hz
        exact hclaim (hrun z (.inl hz)).committed hop
      · rename_i z hz
        split at hop
        · exact hclaim (hrun z (.inr hz)).committed hop
        · exact hclaim (hrun z (.inr hz)).view hop
  · intro call hcall y z hz
    rw [runToolCalls] at hz
    split at hz
    · rcases hz with hz | hz
      · cases hz
        exact ⟨rfl, rfl⟩
      · cases hz
    · rcases hz with hz | hz
      · cases hz
      · cases hz
        exact ⟨rfl, rfl⟩
    · rename_i payload htool
      exact absurd htool (agentTool_of_unfulfillable hcall)

end Turn

end MandatePlane.ToolAuthority

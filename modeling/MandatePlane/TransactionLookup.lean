import MandatePlane.EntryPoints
import Mathlib.Data.Finset.Order
import Mathlib.Data.Fintype.EquivFin

/-!
# Looking up a transaction

The tool `lookup_transaction` of a chat turn.  It looks for the operation that is named and
falls back to the newest successful one of anybody, or to a record that it makes up.  What
it says should be about the agent's own operations, and about the one that is named.
-/

namespace MandatePlane.TransactionLookup

open DomainModel KeyedTable JsonValue HostEnvironment McpGateway

/-! ### The tool -/

/-- Numbers and times as the tool writes them. -/
structure LedgerTexts where
  /-- `f"Rs. {amount / 100:,.2f}"`. -/
  amountInr : ℤ → String
  /-- `created_at.isoformat()`. -/
  isoformat : ℤ → String

structure LookupResult where
  operationId : String
  status : String
  product : Json
  amountInr : String
  operationType : String
  refundEligible : String
  createdAt : String
  note : Option String

/-- `fragment in text`. -/
def containsText (text fragment : String) : Bool := fragment.toList <:+: text.toList

/-- The names that stand for the latest operation. -/
def aliases : List String := ["latest", "recent", "last", "op_demo_step1", "latest_order", "order"]

def orderWords : List String :=
  ["order", "bought", "purchase", "item", "keyboard", "mat", "mouse", "monitor"]

/-- `str(args.get("operation_id", "")).strip()`. -/
def lookupId (host : Rendering) (args : Dict) : String :=
  strip (host.text (dictGet args "operation_id" (.str "")))

/-- An operation is named: not by an empty text and not by an alias. -/
def explicitId (opId : String) : Bool := !opId.isEmpty && opId ∉ aliases

def lookupOrderOnly (env : Platform) (args : Dict) (opId : String) : Bool :=
  (dictGet args "order_only" .null).truthy || orderWords.any (containsText (env.lower opId))

def wentThrough (op : FinancialOperation) : Bool :=
  op.status = .succeeded || op.status = .policyApproved || op.status = .reserved

/-- `... ORDER BY created_at DESC LIMIT 1`. -/
def newestOperation (ops : List FinancialOperation) : Option FinancialOperation :=
  @List.argmax FinancialOperation ℤ Int.instLinearOrder.toPreorder Int.decLt
    FinancialOperation.createdAt ops

/-- The product an operation was for. -/
def productName (op : FinancialOperation) : Json :=
  ((dictGet op.payload "product_name" .null).orElse
    ((dictGet op.payload "description" .null).orElse (dictGet op.payload "product_id" .null))).orElse
      (.str (if op.operationType = .createOrder then "Keychron K2 Mechanical Keyboard"
        else "Customer Refund"))

def describe (texts : LedgerTexts) (op : FinancialOperation) : LookupResult where
  operationId := op.operationId
  status := op.status.value
  product := productName op
  amountInr := texts.amountInr op.amount
  operationType := op.operationType.value
  refundEligible := if wentThrough op then "Yes (Within 30-day return policy window)"
    else s!"No (Order status is {op.status.value})"
  createdAt := texts.isoformat op.createdAt
  note := none

/-- What is answered where there is no operation at all. -/
def sampleOrder : LookupResult where
  operationId := "op_sample_order_01"
  status := "SUCCEEDED"
  product := .str "Keychron K2 Mechanical Keyboard"
  amountInr := "Rs. 6,500.00"
  operationType := "CREATE_ORDER"
  refundEligible := "Yes (Within 30-day return policy window)"
  createdAt := "Recorded in Mandate ledger"
  note := some "Verified purchase order in ledger"

/-- The rows of the fallback query. -/
def fallbackOperations (orderOnly : Bool) (s : Store) : List FinancialOperation :=
  s.operations.rows.filter fun op =>
    (!orderOnly || op.operationType = .createOrder) && wentThrough op

/-- The operation with the given id, which is looked for only if it is no alias. -/
def namedOperation (opId : String) (s : Store) : Except Refusal (Option FinancialOperation) :=
  if explicitId opId then s.operationByOperationId opId else .ok none

/-- The branch `lookup_transaction` of `_dispatch_agent_tool`.  The agent it is called with is not
looked at. -/
def lookupTransaction (env : Platform) (host : Rendering) (texts : LedgerTexts) (_agent : Agent)
    (args : Dict) (s : Store) : Except Refusal LookupResult := do
  let opId := lookupId host args
  match ← namedOperation opId s with
  | some op => return describe texts op
  | none =>
    match newestOperation (fallbackOperations (lookupOrderOnly env args opId) s) with
    | some op => return describe texts op
    | none => return sampleOrder

/-! ### What it should say -/

/-- The agent's operations. -/
def own (agent : Agent) (s : Store) : List FinancialOperation :=
  s.operations.rows.filter fun op => op.agentId = agent.id

/-- The unique index of `operation_id`. -/
def OperationIdsUnique (s : Store) : Prop :=
  (s.operations.rows.map FinancialOperation.operationId).Nodup

/-- **Isolated and accurate**: the answer is the same in every store with the same operations of
the agent, and where an operation is named, what is described is that operation of the agent. -/
structure Trustworthy (env : Platform) (host : Rendering) (texts : LedgerTexts) (agent : Agent)
    (args : Dict) (s : Store) : Prop where
  isolated : ∀ s', OperationIdsUnique s' → own agent s' = own agent s →
    lookupTransaction env host texts agent args s' = lookupTransaction env host texts agent args s
  accurate : explicitId (lookupId host args) = true →
    ∀ result, lookupTransaction env host texts agent args s = .ok result →
      ∃ op ∈ own agent s, op.operationId = lookupId host args ∧ result = describe texts op

section Lookup

variable {env : Platform} {host : Rendering} {texts : LedgerTexts} {agent : Agent} {args : Dict}
  {s : Store}

/-- The row with a public id is found by it. -/
theorem operationByOperationId_of_mem (hunique : OperationIdsUnique s) {op : FinancialOperation}
    (hop : op ∈ s.operations.rows) : s.operationByOperationId op.operationId = .ok (some op) := by
  rw [Store.operationByOperationId, scalarOneOrFail_eq_ok]
  unfold OperationIdsUnique at hunique
  generalize s.operations.rows = rows at hunique hop
  induction rows with
  | nil => cases hop
  | cons r rows ih =>
    rw [List.map_cons, List.nodup_cons] at hunique
    rcases List.mem_cons.mp hop with rfl | hrest
    · have hnone : rows.filter (fun r => r.operationId = op.operationId) = [] := by
        apply List.filter_eq_nil_iff.mpr
        intro r hr he
        exact hunique.1 (List.mem_map.mpr ⟨r, hr, of_decide_eq_true he⟩)
      simp [hnone]
    · have hne : r.operationId ≠ op.operationId := by
        intro he
        exact hunique.1 (List.mem_map.mpr ⟨op, hrest, he.symm⟩)
      rw [List.filter_cons, if_neg (by simpa using hne)]
      exact ih hunique.2 hrest

/-- A public id that no row has is not found. -/
theorem operationByOperationId_of_forall {opId : String}
    (h : ∀ op ∈ s.operations.rows, op.operationId ≠ opId) :
    s.operationByOperationId opId = .ok none := by
  rw [Store.operationByOperationId, scalarOneOrFail_eq_ok]
  apply List.filter_eq_nil_iff.mpr
  intro op hop he
  exact h op hop (of_decide_eq_true he)

/-- **An operation of the store that is named is described.** -/
theorem lookupTransaction_named (hunique : OperationIdsUnique s)
    (hexplicit : explicitId (lookupId host args) = true) {op : FinancialOperation}
    (hop : op ∈ s.operations.rows) (hid : op.operationId = lookupId host args) :
    lookupTransaction env host texts agent args s = .ok (describe texts op) := by
  have hnamed : namedOperation (lookupId host args) s = .ok (some op) := by
    rw [namedOperation, if_pos hexplicit, ← hid, operationByOperationId_of_mem hunique hop]
  unfold lookupTransaction
  simp only [hnamed]
  rfl

/-- **Otherwise the newest operation that went through is described**, whoever's it is. -/
theorem lookupTransaction_newest
    (hnone : explicitId (lookupId host args) = true →
      ∀ op ∈ s.operations.rows, op.operationId ≠ lookupId host args)
    {op : FinancialOperation} (hop : op ∈ s.operations.rows) (hthrough : wentThrough op = true)
    (horder : op.operationType = .createOrder)
    (hnewest : ∀ other ∈ s.operations.rows, other ≠ op → other.createdAt < op.createdAt) :
    lookupTransaction env host texts agent args s = .ok (describe texts op) := by
  have hnamed : namedOperation (lookupId host args) s = .ok none := by
    unfold namedOperation
    split
    · rename_i hexplicit
      exact operationByOperationId_of_forall (hnone hexplicit)
    · rfl
  have hfound : newestOperation (fallbackOperations
      (lookupOrderOnly env args (lookupId host args)) s) = some op := by
    have hmem : op ∈ fallbackOperations (lookupOrderOnly env args (lookupId host args)) s := by
      simp [fallbackOperations, hop, hthrough, horder]
    unfold newestOperation
    cases hmax : @List.argmax FinancialOperation ℤ Int.instLinearOrder.toPreorder Int.decLt
        FinancialOperation.createdAt
        (fallbackOperations (lookupOrderOnly env args (lookupId host args)) s) with
    | none =>
      rw [List.argmax_eq_none] at hmax
      rw [hmax] at hmem
      cases hmem
    | some m =>
      by_contra hne
      have hm : m ∈ s.operations.rows := List.mem_of_mem_filter (List.argmax_mem hmax)
      have hle : op.createdAt ≤ m.createdAt := List.le_of_mem_argmax hmem hmax
      have hlt : m.createdAt < op.createdAt := by
        apply hnewest m hm
        intro heq
        exact hne (congrArg some heq)
      omega
  unfold lookupTransaction
  simp only [hnamed, bind, Except.bind, hfound]
  rfl

/-- Another agent's order, newer than a list of operations and with ids that are not taken. -/
theorem exists_intruder (agent : Agent) (ops : List FinancialOperation) (taken : List String) :
    ∃ op : FinancialOperation, op.agentId ≠ agent.id ∧ op.id ∉ ops.map FinancialOperation.id ∧
      op.operationId ∉ taken ∧ wentThrough op = true ∧ op.operationType = .createOrder ∧
      ∀ other ∈ ops, other.createdAt < op.createdAt := by
  obtain ⟨agentId, hagent⟩ := Infinite.exists_notMem_finset {agent.id}
  obtain ⟨id, hid⟩ := Infinite.exists_notMem_finset (ops.map FinancialOperation.id).toFinset
  obtain ⟨operationId, hoperationId⟩ := Infinite.exists_notMem_finset taken.toFinset
  obtain ⟨bound, hbound⟩ := Finset.exists_le (ops.map FinancialOperation.createdAt).toFinset
  refine ⟨{ id, operationId, agentId, idempotencyKey := "", mandateId := ""
            operationType := .createOrder, status := .succeeded, amount := 0, currency := ""
            payload := [], policyEvaluationDetails := none, errorMessage := none
            approvedById := none, createdAt := bound + 1 }, ?_, ?_, ?_, rfl, rfl, ?_⟩
  · simpa using hagent
  · simpa using hid
  · simpa using hoperationId
  · intro other hother
    have hle : other.createdAt ≤ bound := by
      apply hbound
      rw [List.mem_toFinset]
      exact List.mem_map_of_mem hother
    show other.createdAt < bound + 1
    omega

/-- The store with the agent's operations and one more. -/
def besides (agent : Agent) (s : Store) (op : FinancialOperation)
    (hid : op.id ∉ (own agent s).map FinancialOperation.id) : Store :=
  { s with
    operations :=
      { rows := op :: own agent s
        nodup := List.nodup_cons.mpr
          ⟨hid, s.operations.nodup.sublist (List.filter_sublist.map Keyed.key)⟩ } }

theorem own_besides {op : FinancialOperation}
    {hid : op.id ∉ (own agent s).map FinancialOperation.id} (hagent : op.agentId ≠ agent.id) :
    own agent (besides agent s op hid) = own agent s := by
  show (op :: own agent s).filter _ = own agent s
  rw [List.filter_cons, if_neg (by simpa using hagent)]
  apply List.filter_eq_self.mpr
  intro other hother
  exact (List.mem_filter.mp hother).2

theorem operationIdsUnique_besides (hunique : OperationIdsUnique s) {op : FinancialOperation}
    {hid : op.id ∉ (own agent s).map FinancialOperation.id}
    (hoperationId : op.operationId ∉ (own agent s).map FinancialOperation.operationId) :
    OperationIdsUnique (besides agent s op hid) :=
  List.nodup_cons.mpr ⟨hoperationId, hunique.sublist (List.filter_sublist.map _)⟩

/-- **A lookup is isolated and accurate exactly where it names an operation of the agent.** -/
theorem trustworthy_iff (hunique : OperationIdsUnique s) :
    Trustworthy env host texts agent args s ↔
      explicitId (lookupId host args) = true ∧
        ∃ op ∈ own agent s, op.operationId = lookupId host args := by
  constructor
  · intro h
    by_contra hnot
    -- another agent's newest order would be the answer, and it is not the present one
    obtain ⟨intruder, hagent, hid, htaken, hthrough, horder, hnewer⟩ := exists_intruder agent
      (own agent s) ((own agent s).map FinancialOperation.operationId ++ lookupId host args ::
        match lookupTransaction env host texts agent args s with
        | .ok result => [result.operationId]
        | .error _ => [])
    rw [List.mem_append, List.mem_cons, not_or, not_or] at htaken
    obtain ⟨hfresh, hother, hanswer⟩ := htaken
    have hdescribed : lookupTransaction env host texts agent args (besides agent s intruder hid) =
        .ok (describe texts intruder) := by
      refine lookupTransaction_newest ?_ List.mem_cons_self hthrough horder ?_
      · intro hexplicit op hop hnamed
        rcases List.mem_cons.mp hop with rfl | hown
        · exact hother hnamed
        · exact hnot ⟨hexplicit, op, hown, hnamed⟩
      · intro op hop hne
        rcases List.mem_cons.mp hop with rfl | hown
        · exact absurd rfl hne
        · exact hnewer op hown
    have hsame := h.isolated (besides agent s intruder hid)
      (operationIdsUnique_besides hunique hfresh) (own_besides hagent)
    rw [hdescribed] at hsame
    rw [← hsame] at hanswer
    exact hanswer (List.mem_singleton_self _)
  · rintro ⟨hexplicit, op, hop, hnamed⟩
    have hdescribed : lookupTransaction env host texts agent args s = .ok (describe texts op) :=
      lookupTransaction_named hunique hexplicit (List.mem_of_mem_filter hop) hnamed
    refine ⟨fun s' hunique' hown => ?_, fun _ result hresult => ⟨op, hop, hnamed, ?_⟩⟩
    · rw [← hown] at hop
      rw [hdescribed]
      exact lookupTransaction_named hunique' hexplicit (List.mem_of_mem_filter hop) hnamed
    · rw [hdescribed] at hresult
      exact (Except.ok.inj hresult).symm

end Lookup

/-! ### Lookups in the sample world -/

namespace Sample

open ControlPlane.Sample OperationRoutes

/-- The first agent's order, and a second agent. -/
def orderedStore : Store :=
  { twoAgents with
    operations := ⟨[newOperation platform orderA (inputs "operation_A" "order_A" 600)],
      List.nodup_singleton _⟩ }

def secondAgent : Agent := { agent with id := "agt_2" }

def texts : LedgerTexts := ⟨fun _ => "", fun _ => ""⟩

def naming (operationId : String) : Dict := [("operation_id", .str operationId)]

end Sample

open Sample ControlPlane.Sample

/-- The first agent is told about the order it names. -/
theorem trustworthy_operationA :
    Trustworthy platform EntryPoints.plainConversions.toRendering Sample.texts
      ControlPlane.Sample.agent (naming "operation_A") orderedStore := by
  have hunique : OperationIdsUnique orderedStore := List.nodup_singleton _
  exact (trustworthy_iff hunique).mpr ⟨by decide +kernel, _, List.mem_singleton_self _, by
    decide +kernel⟩

/-- **A lookup shows another agent's operation, and makes one up.** -/
theorem not_trustworthy :
    ¬ Trustworthy platform EntryPoints.plainConversions.toRendering Sample.texts secondAgent
        (naming "operation_A") orderedStore ∧
      ¬ Trustworthy platform EntryPoints.plainConversions.toRendering Sample.texts
        ControlPlane.Sample.agent (naming "op_unknown") ControlPlane.Sample.store := by
  constructor
  · intro h
    have hunique : OperationIdsUnique orderedStore := List.nodup_singleton _
    have hfound : lookupTransaction platform EntryPoints.plainConversions.toRendering Sample.texts
        secondAgent (naming "operation_A") orderedStore = .ok (describe Sample.texts
          (OperationRoutes.newOperation platform orderA (inputs "operation_A" "order_A" 600))) :=
      lookupTransaction_named hunique (by decide +kernel)
        (List.mem_singleton_self _) (by decide +kernel)
    obtain ⟨op, hop, -⟩ := h.accurate (by decide +kernel) _ hfound
    have hnone : own secondAgent orderedStore = [] := rfl
    rw [hnone] at hop
    cases hop
  · intro h
    have hmadeUp : lookupTransaction platform EntryPoints.plainConversions.toRendering Sample.texts
        ControlPlane.Sample.agent (naming "op_unknown") ControlPlane.Sample.store =
          .ok sampleOrder := rfl
    obtain ⟨op, hop, -⟩ := h.accurate (by decide +kernel) _ hmadeUp
    cases hop

end MandatePlane.TransactionLookup

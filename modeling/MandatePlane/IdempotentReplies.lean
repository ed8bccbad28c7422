import MandatePlane.IdempotentRequests

/-!
# Replies to requests that reuse a key

A request that names a stored idempotency key is answered with the operation stored under
it, whoever asks and for whatever.  The reply matches the request when the operation does,
and a request that does not match is refused only where its credential is.
-/

namespace MandatePlane.IdempotentReplies

open DomainModel KeyedTable LedgerView HostEnvironment CallerAuth OperationRoutes HandlerPostings

/-! ### Matching replies -/

/-- The operation is one that the request asks for. -/
structure Matches (env : Platform) (payload : OperationCreate) (op : FinancialOperation) :
    Prop where
  agentId : op.agentId = payload.agentId
  mandateId : op.mandateId = payload.mandateId
  operationType : op.operationType = payload.operationType
  amount : op.amount = payload.amount
  currency : op.currency = env.upper payload.currency

/-- An operation with other content is stored under the request's key. -/
def Conflicts (env : Platform) (payload : OperationCreate) (s : Store) : Prop :=
  ∃ op ∈ s.operations.rows, op.idempotencyKey = payload.idempotencyKey ∧ ¬ Matches env payload op

/-- **Replies match**: what is returned is what was asked for, and a request whose key is stored
with other content is refused, in the same way whatever that content is. -/
structure RepliesMatch (env : Platform) (settings : Settings) (payload : OperationCreate)
    (headers : CallerHeaders) (inputs : RequestInputs) (s : Store) : Prop where
  returned : ∀ c, requestFinancialOperation env settings payload headers inputs s = .ok c →
    Matches env payload c.value
  refused : Conflicts env payload s → ∃ refusal,
    ∀ operations, Conflicts env payload { s with operations } →
      requestFinancialOperation env settings payload headers inputs { s with operations } =
        .error refusal

section Requests

variable {env : Platform} {settings : Settings} {payload : OperationCreate}
  {headers : CallerHeaders} {inputs : RequestInputs} {s : Store}

/-- What is asked for is part of the order. -/
theorem matches_of_order {op : FinancialOperation}
    (h : orderOf op = orderOf (newOperation env payload inputs)) : Matches env payload op := by
  obtain ⟨⟩ := op
  simp only [LedgerView.orderOf, newOperation, FinancialOperation.mk.injEq] at h
  obtain ⟨-, -, -, hagent, hmandate, htype, -, hamount, hcurrency, -⟩ := h
  exact ⟨hagent, hmandate, htype, hamount, hcurrency⟩

theorem executeGatewayOperation_order (gateway : RazorpayClient.GatewayAnswers)
    (mandate : Mandate) (operation : FinancialOperation) (fields : JsonValue.Dict) :
    orderOf (executeGatewayOperation env gateway mandate operation fields s).value =
      orderOf operation := by
  unfold executeGatewayOperation
  dsimp only
  split <;> rfl

theorem actOnDecision_order (mandate : Mandate) (operation : FinancialOperation)
    (result : PolicyEvaluationResult) :
    orderOf (actOnDecision env payload inputs mandate operation result s).value =
      orderOf operation := by
  unfold actOnDecision
  split
  · rfl
  · rfl
  · split
    · rfl
    · exact executeGatewayOperation_order _ _ _ _

/-- **A request returns the row stored under its key or one it has inserted.** -/
theorem returned_cases {c : Committed FinancialOperation}
    (h : requestFinancialOperation env settings payload headers inputs s = .ok c) :
    s.operationByIdempotencyKey payload.idempotencyKey = .ok (some c.value) ∨
      s.operationByIdempotencyKey payload.idempotencyKey = .ok none ∧
        orderOf c.value = orderOf (newOperation env payload inputs) := by
  rcases request_returned h with ⟨existingOp, hexisting, rfl⟩ | ⟨agent, mandate, s₁, result, hev, rfl⟩
  · exact .inl hexisting
  · exact .inr ⟨hev.fresh, actOnDecision_order _ _ _⟩

/-- A row that is alone under its key is found by it. -/
theorem operationByIdempotencyKey_alone (op : FinancialOperation) :
    { s with operations := ⟨[op], List.nodup_singleton _⟩ }.operationByIdempotencyKey
      op.idempotencyKey = .ok (some op) := by
  rw [Store.operationByIdempotencyKey, scalarOneOrFail_eq_ok]
  simp

/-- **Replies match exactly where no other content is stored under the key, or the credential is
refused.** -/
theorem replies_match_iff :
    RepliesMatch env settings payload headers inputs s ↔
      ¬ Conflicts env payload s ∨
        ∃ refusal, authenticateRequest env settings payload headers s.agents = .error refusal := by
  constructor
  · intro h
    by_contra hnot
    push Not at hnot
    obtain ⟨⟨op, hop, hkey, hother⟩, haccepted⟩ := hnot
    obtain ⟨refusal, hrefused⟩ := h.refused ⟨op, hop, hkey, hother⟩
    have hauth : authenticateRequest env settings payload headers s.agents = .ok () := by
      cases hcase : authenticateRequest env settings payload headers s.agents with
      | error refusal => exact absurd hcase (haccepted refusal)
      | ok u => rfl
    -- alone under the key, the operation is returned
    have halone := hrefused ⟨[op], List.nodup_singleton _⟩
      ⟨op, List.mem_singleton_self op, hkey, hother⟩
    have hstored := operationByIdempotencyKey_alone (s := s) op
    rw [hkey] at hstored
    have hanswer := @request_stored env settings payload headers inputs
      { s with operations := ⟨[op], List.nodup_singleton _⟩ } op hauth hstored
    rw [hanswer] at halone
    cases halone
  · rintro (hnone | ⟨refusal, hauth⟩)
    · refine ⟨fun c hc => ?_, fun h => absurd h hnone⟩
      rcases returned_cases hc with hfound | ⟨-, horder⟩
      · obtain ⟨hrow, hkey⟩ := IdempotentRequests.mem_of_operationByIdempotencyKey hfound
        by_contra hother
        exact hnone ⟨c.value, hrow, hkey, hother⟩
      · exact matches_of_order horder
    · refine ⟨fun c hc => ?_, fun _ => ⟨refusal, fun _ _ => request_refused hauth⟩⟩
      rw [request_refused hauth] at hc
      cases hc

end Requests

/-! ### A key of another agent -/

namespace Sample

open ControlPlane.Sample

def secondAgent : Agent := { agent with id := "agt_2", apiKeyHash := "hash_key_2" }

/-- The first agent's order as it was dispatched. -/
def dispatchedA : FinancialOperation :=
  (newOperation platform orderA (inputs "operation_A" "order_A" 600)).moveTo .executing

/-- Two agents, and an operation of the first. -/
def sharedStore : Store :=
  { store with
    agents := ⟨[agent, secondAgent], by decide⟩
    operations := ⟨[dispatchedA], List.nodup_singleton _⟩ }

/-- The second agent asks for something else under the first agent's key. -/
def reused : OperationCreate :=
  { orderB with idempotencyKey := "operation_A", key_length := length_A, agentId := "agt_2" }

def secondHeaders : CallerHeaders := ⟨some "key_2", none, some "agt_2"⟩

end Sample

open Sample ControlPlane.Sample in
/-- **A reused key returns another agent's operation**: the second agent, with its own credential,
is answered with the first agent's operation. -/
theorem not_replies_match_reused :
    ¬ RepliesMatch platform settings reused secondHeaders (inputs "operation_B" "order_B" 400)
      sharedStore := by
  intro h
  have hauth : authenticateRequest platform settings reused secondHeaders sharedStore.agents =
      .ok () := rfl
  have hfound : sharedStore.operationByIdempotencyKey reused.idempotencyKey =
      .ok (some dispatchedA) := operationByIdempotencyKey_alone (s := sharedStore) dispatchedA
  have hrun : requestFinancialOperation platform settings reused secondHeaders
      (inputs "operation_B" "order_B" 400) sharedStore = .ok ⟨dispatchedA, sharedStore, []⟩ :=
    request_stored hauth hfound
  have hmatch : Matches platform reused dispatchedA := h.returned _ hrun
  exact absurd hmatch.agentId (by decide)

end MandatePlane.IdempotentReplies

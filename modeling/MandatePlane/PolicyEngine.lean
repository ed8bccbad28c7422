import MandatePlane.HostEnvironment
import Mathlib.Data.List.Forall2
import Mathlib.Tactic.Push
import Mathlib.Tactic.Tauto

/-!
# The deterministic policy engine

The nine rules of `PolicyEngine` in their order, with the texts and contexts of
their diagnostics, and the loop that combines them into ALLOW, DENY or
REQUIRE_HUMAN_REVIEW.  The clock and the rate limiter's answer are inputs.

The hierarchical rule walks up the parents only when it is given a database
session in its context.  The walk need not return on a cyclic parent graph; it is
cut off once it has followed more parents than there are mandates, and the
evaluation is then reported as never returning.
-/

namespace MandatePlane.PolicyEngine

open DomainModel KeyedTable JsonValue HostEnvironment

/-- What `RedisRateLimiter.check_rate_limit` answered. -/
structure RateLimitResult where
  allowed : Bool
  limit : ℤ
  remaining : ℤ
  retryAfterSeconds : Json
  rejectionReason : Option String

/-- What the rules read besides the three rows; `context` is `{"db": db}` when a caller passes it. -/
structure EvaluationInputs where
  now : ℤ
  rateLimit : RateLimitResult
  context : Option (Table Mandate)

/-! ### Diagnostics -/

def allowed (ruleName reason : String) (context : Dict) : PolicyRuleDiagnostic :=
  { ruleName, decision := .allow, passed := true, reason, context }

def denied (ruleName reason : String) (context : Dict) : PolicyRuleDiagnostic :=
  { ruleName, decision := .deny, passed := false, reason, context }

def textList (texts : List String) : Json := .arr (texts.map .str)

/-! ### The rules -/

def agentStatusRule (agent : Agent) : PolicyRuleDiagnostic :=
  if agent.status ≠ .active then
    denied "AGENT_STATUS_CHECK"
      s!"Agent '{agent.id}' is in status {agent.status.value}; must be ACTIVE"
      [("agent_status", .str agent.status.value)]
  else allowed "AGENT_STATUS_CHECK" "Agent is active and verified" []

def mandateLifecycleRule (env : Platform) (now : ℤ) (mandate : Mandate) : PolicyRuleDiagnostic :=
  if mandate.status ≠ .active then
    denied "MANDATE_LIFECYCLE_CHECK"
      s!"Mandate status is {mandate.status.value}; expected ACTIVE"
      [("mandate_status", .str mandate.status.value)]
  else if now < mandate.validFrom.instant then
    denied "MANDATE_LIFECYCLE_CHECK"
      s!"Mandate is not yet effective (valid from {env.isoformat mandate.validFrom.ensureUtc})" []
  else if mandate.validUntil.instant < now then
    denied "MANDATE_LIFECYCLE_CHECK"
      s!"Mandate has expired (valid until {env.isoformat mandate.validUntil.ensureUtc})" []
  else allowed "MANDATE_LIFECYCLE_CHECK" "Mandate is active and within validity window" []

/-- An optional id as the conditions `if not id` and `while id` see it. -/
def truthyId : Option String → Option String
  | none => none
  | some id => if id.isEmpty then none else some id

/-- The `while curr_parent_id` loop, for at most `fuel` parents. -/
def ancestorWalk (mandates : Table Mandate) (fuel : ℕ) (currParentId : Option String) :
    Except Refusal PolicyRuleDiagnostic :=
  match truthyId currParentId with
  | none =>
    .ok (allowed "HIERARCHICAL_DELEGATION_CHECK" "Delegation hierarchy validated and active" [])
  | some parentId =>
    match fuel with
    | 0 => .error .noReturn
    | fuel + 1 =>
      match mandates.find? parentId with
      | none =>
        .ok (denied "HIERARCHICAL_DELEGATION_CHECK"
          s!"Ancestor parent mandate '{parentId}' not found" [])
      | some parent =>
        if parent.status ≠ .active then
          .ok (denied "HIERARCHICAL_DELEGATION_CHECK"
            (s!"Parent mandate '{parent.id}' in delegation tree is {parent.status.value}; " ++
              "authority invalidated")
            [("parent_id", .str parent.id), ("parent_status", .str parent.status.value)])
        else ancestorWalk mandates fuel parent.parentMandateId

def hierarchicalDelegationRule (context : Option (Table Mandate)) (mandate : Mandate) :
    Except Refusal PolicyRuleDiagnostic :=
  match truthyId mandate.parentMandateId with
  | none =>
    .ok (allowed "HIERARCHICAL_DELEGATION_CHECK" "Root mandate has no parent dependencies" [])
  | some _ =>
    match context with
    | none =>
      .ok (allowed "HIERARCHICAL_DELEGATION_CHECK" "Delegation hierarchy validated and active" [])
    | some mandates => ancestorWalk mandates (mandates.rows.length + 1) mandate.parentMandateId

def currencyMatchRule (env : Platform) (mandate : Mandate) (operation : FinancialOperation) :
    PolicyRuleDiagnostic :=
  if env.upper operation.currency ≠ env.upper mandate.currency then
    denied "CURRENCY_MATCH_CHECK"
      (s!"Requested currency '{operation.currency}' does not match mandate bound " ++
        s!"'{mandate.currency}'")
      [("requested_currency", .str operation.currency),
        ("mandate_currency", .str mandate.currency)]
  else allowed "CURRENCY_MATCH_CHECK" "Currency restriction satisfied" []

def allowedOperationTypeRule (mandate : Mandate) (operation : FinancialOperation) :
    PolicyRuleDiagnostic :=
  let opType := operation.operationType.value
  if mandate.allowedOperations ≠ [] ∧ opType ∉ mandate.allowedOperations then
    denied "OPERATION_TYPE_CHECK"
      s!"Operation type '{opType}' is not authorized in mandate whitelist"
      [("allowed_operations", textList mandate.allowedOperations), ("requested", .str opType)]
  else allowed "OPERATION_TYPE_CHECK" s!"Operation type '{opType}' is authorized" []

def perTransactionLimitRule (mandate : Mandate) (operation : FinancialOperation) :
    PolicyRuleDiagnostic :=
  if operation.amount > mandate.maxAmountPerOp then
    denied "PER_TRANSACTION_LIMIT_CHECK"
      (s!"Requested amount {operation.amount} exceeds per-transaction limit " ++
        s!"{mandate.maxAmountPerOp}")
      [("requested_amount", .int operation.amount), ("limit", .int mandate.maxAmountPerOp)]
  else allowed "PER_TRANSACTION_LIMIT_CHECK" "Amount is within per-transaction ceiling" []

def aggregateSpendLimitRule (mandate : Mandate) (operation : FinancialOperation) :
    PolicyRuleDiagnostic :=
  let reserved := mandate.reservedSpend
  let current := mandate.currentAggregateSpend
  let projectedTotal := current + reserved + operation.amount
  if projectedTotal > mandate.aggregateSpendLimit then
    let remaining := max 0 (mandate.aggregateSpendLimit - (current + reserved))
    denied "AGGREGATE_SPEND_LIMIT_CHECK"
      (s!"Operation amount {operation.amount} exceeds remaining aggregate mandate budget " ++
        s!"({remaining})")
      [("committed_spend", .int current), ("reserved_spend", .int reserved),
        ("aggregate_limit", .int mandate.aggregateSpendLimit), ("remaining_budget", .int remaining)]
  else allowed "AGGREGATE_SPEND_LIMIT_CHECK" "Aggregate spend budget available" []

def humanReviewThresholdRule (mandate : Mandate) (operation : FinancialOperation) :
    PolicyRuleDiagnostic :=
  match truthyId operation.approvedById with
  | some approvedById =>
    allowed "HUMAN_REVIEW_THRESHOLD_CHECK"
      s!"Human signoff granted by principal '{approvedById}'" []
  | none =>
    match mandate.reviewThresholdAmount with
    | none => allowed "HUMAN_REVIEW_THRESHOLD_CHECK" "Under human review threshold" []
    | some threshold =>
      if threshold ≠ 0 ∧ operation.amount ≥ threshold then
        { ruleName := "HUMAN_REVIEW_THRESHOLD_CHECK"
          decision := .requireHumanReview
          passed := false
          reason := s!"Operation amount {operation.amount} reaches review threshold {threshold}"
          context := [("amount", .int operation.amount), ("threshold", .int threshold)] }
      else allowed "HUMAN_REVIEW_THRESHOLD_CHECK" "Under human review threshold" []

def rateLimitRule (result : RateLimitResult) : PolicyRuleDiagnostic :=
  if result.allowed then
    allowed "RATE_LIMIT_CHECK" "Within rate limit quota" [("remaining", .int result.remaining)]
  else
    denied "RATE_LIMIT_CHECK" ((truthyId result.rejectionReason).getD "Rate limit exceeded")
      [("limit", .int result.limit), ("remaining", .int result.remaining),
        ("retry_after_seconds", result.retryAfterSeconds)]

/-! ### The engine -/

abbrev PolicyRule := Agent → Mandate → FinancialOperation → Except Refusal PolicyRuleDiagnostic

/-- The default rule list, in evaluation order. -/
def defaultRules (env : Platform) (inputs : EvaluationInputs) : List PolicyRule :=
  [fun agent _ _ => .ok (agentStatusRule agent),
    fun _ mandate _ => .ok (mandateLifecycleRule env inputs.now mandate),
    fun _ mandate _ => hierarchicalDelegationRule inputs.context mandate,
    fun _ mandate operation => .ok (currencyMatchRule env mandate operation),
    fun _ mandate operation => .ok (allowedOperationTypeRule mandate operation),
    fun _ mandate operation => .ok (perTransactionLimitRule mandate operation),
    fun _ mandate operation => .ok (aggregateSpendLimitRule mandate operation),
    fun _ mandate operation => .ok (humanReviewThresholdRule mandate operation),
    fun _ _ _ => .ok (rateLimitRule inputs.rateLimit)]

/-- The accumulators of the evaluation loop. -/
structure Tally where
  decision : PolicyDecisionType
  rejectionReasons : List String
  reviewReasons : List String
  diagnostics : List PolicyRuleDiagnostic

def Tally.start : Tally := ⟨.allow, [], [], []⟩

/-- One round of the loop, after the rule has answered. -/
def Tally.add (t : Tally) (diag : PolicyRuleDiagnostic) : Tally :=
  let t := { t with diagnostics := t.diagnostics ++ [diag] }
  match diag.decision with
  | .deny =>
    { t with
      decision := .deny
      rejectionReasons := t.rejectionReasons ++ [s!"[{diag.ruleName}] {diag.reason}"] }
  | .requireHumanReview =>
    if t.decision ≠ .deny then
      { t with
        decision := .requireHumanReview
        reviewReasons := t.reviewReasons ++ [s!"[{diag.ruleName}] {diag.reason}"] }
    else t
  | .allow => t

/-- The loop over the rules. -/
def evaluateRules (agent : Agent) (mandate : Mandate) (operation : FinancialOperation) :
    List PolicyRule → Tally → Except Refusal Tally
  | [], t => .ok t
  | rule :: rules, t =>
    match rule agent mandate operation with
    | .error refusal => .error refusal
    | .ok diag => evaluateRules agent mandate operation rules (t.add diag)

def Tally.result (t : Tally) (agent : Agent) (mandate : Mandate) (operation : FinancialOperation) :
    PolicyEvaluationResult where
  decision := t.decision
  approved := t.decision = .allow
  requiresHumanReview := t.decision = .requireHumanReview
  operationId := operation.operationId
  agentId := agent.id
  mandateId := mandate.id
  rejectionReasons := t.rejectionReasons
  reviewReasons := t.reviewReasons
  ruleDiagnostics := t.diagnostics

/-- `PolicyEngine().evaluate(agent, mandate, operation, context)`. -/
def evaluate (env : Platform) (inputs : EvaluationInputs) (agent : Agent) (mandate : Mandate)
    (operation : FinancialOperation) : Except Refusal PolicyEvaluationResult :=
  (evaluateRules agent mandate operation (defaultRules env inputs) .start).map
    fun t => t.result agent mandate operation

/-! ### How the decisions combine -/

/-- The loop asks every rule once and adds the answers in order. -/
theorem evaluateRules_eq_ok {agent : Agent} {mandate : Mandate} {operation : FinancialOperation}
    {rules : List PolicyRule} {t t' : Tally} :
    evaluateRules agent mandate operation rules t = .ok t' ↔
      ∃ diags, List.Forall₂ (fun rule diag => rule agent mandate operation = .ok diag) rules diags ∧
        t' = diags.foldl Tally.add t := by
  induction rules generalizing t with
  | nil => simp [evaluateRules, eq_comm]
  | cons rule rules ih =>
    rw [evaluateRules]
    cases hr : rule agent mandate operation with
    | error refusal => simp [List.forall₂_cons_left_iff, hr]
    | ok diag =>
      simp only [ih, List.forall₂_cons_left_iff, hr, Except.ok.injEq]
      constructor
      · rintro ⟨diags, hd, rfl⟩
        exact ⟨diag :: diags, ⟨diag, diags, rfl, hd, rfl⟩, rfl⟩
      · rintro ⟨_, ⟨_, diags, rfl, hd, rfl⟩, rfl⟩
        exact ⟨diags, hd, rfl⟩

theorem add_decision (t : Tally) (diag : PolicyRuleDiagnostic) :
    (t.add diag).decision =
      if t.decision = .deny then .deny
      else if diag.decision = .allow then t.decision else diag.decision := by
  unfold Tally.add
  cases hd : diag.decision <;> cases ht : t.decision <;> simp

/-- One denial denies, and nothing else does. -/
theorem foldl_add_deny {diags : List PolicyRuleDiagnostic} {t : Tally} :
    (diags.foldl Tally.add t).decision = .deny ↔
      t.decision = .deny ∨ ∃ diag ∈ diags, diag.decision = .deny := by
  induction diags generalizing t with
  | nil => simp
  | cons diag diags ih =>
    rw [List.foldl_cons, ih, add_decision, List.exists_mem_cons_iff]
    cases hd : diag.decision <;> cases ht : t.decision <;> simp

/-- Only unanimous permission permits. -/
theorem foldl_add_allow {diags : List PolicyRuleDiagnostic} {t : Tally} :
    (diags.foldl Tally.add t).decision = .allow ↔
      t.decision = .allow ∧ ∀ diag ∈ diags, diag.decision = .allow := by
  induction diags generalizing t with
  | nil => simp
  | cons diag diags ih =>
    rw [List.foldl_cons, ih, add_decision, List.forall_mem_cons]
    cases hd : diag.decision <;> cases ht : t.decision <;> simp

/-! ### What each rule denies -/

theorem agentStatusRule_deny {agent : Agent} :
    (agentStatusRule agent).decision = .deny ↔ agent.status ≠ .active := by
  unfold agentStatusRule
  split <;> simp_all [allowed, denied]

theorem mandateLifecycleRule_deny {env : Platform} {now : ℤ} {mandate : Mandate} :
    (mandateLifecycleRule env now mandate).decision = .deny ↔
      mandate.status ≠ .active ∨ now < mandate.validFrom.instant ∨
        mandate.validUntil.instant < now := by
  unfold mandateLifecycleRule
  split
  · simp_all [denied]
  · split
    · simp_all [denied]
    · split <;> simp_all [allowed, denied]

theorem currencyMatchRule_deny {env : Platform} {mandate : Mandate}
    {operation : FinancialOperation} :
    (currencyMatchRule env mandate operation).decision = .deny ↔
      env.upper operation.currency ≠ env.upper mandate.currency := by
  unfold currencyMatchRule
  split <;> simp_all [allowed, denied]

/-- An empty whitelist permits every type. -/
theorem allowedOperationTypeRule_deny {mandate : Mandate} {operation : FinancialOperation} :
    (allowedOperationTypeRule mandate operation).decision = .deny ↔
      mandate.allowedOperations ≠ [] ∧
        operation.operationType.value ∉ mandate.allowedOperations := by
  simp only [allowedOperationTypeRule]
  split <;> simp_all [allowed, denied]

theorem perTransactionLimitRule_deny {mandate : Mandate} {operation : FinancialOperation} :
    (perTransactionLimitRule mandate operation).decision = .deny ↔
      mandate.maxAmountPerOp < operation.amount := by
  unfold perTransactionLimitRule
  split <;> simp_all [allowed, denied]

theorem aggregateSpendLimitRule_deny {mandate : Mandate} {operation : FinancialOperation} :
    (aggregateSpendLimitRule mandate operation).decision = .deny ↔
      mandate.aggregateSpendLimit <
        mandate.currentAggregateSpend + mandate.reservedSpend + operation.amount := by
  simp only [aggregateSpendLimitRule]
  split <;> simp_all [allowed, denied]

/-- Without a session in the context the hierarchical rule looks at no ancestor. -/
theorem hierarchicalDelegationRule_none (mandate : Mandate) :
    ∃ diag, hierarchicalDelegationRule none mandate = .ok diag ∧ diag.decision = .allow := by
  unfold hierarchicalDelegationRule
  cases truthyId mandate.parentMandateId with
  | none => exact ⟨_, rfl, rfl⟩
  | some _ => exact ⟨_, rfl, rfl⟩

/-! ### What an evaluation that does not deny guarantees -/

/-- The bounds of the mandate that an operation keeps at the time `now`. -/
structure WithinMandate (env : Platform) (now : ℤ) (agent : Agent) (mandate : Mandate)
    (operation : FinancialOperation) : Prop where
  agentActive : agent.status = .active
  mandateActive : mandate.status = .active
  effective : mandate.validFrom.instant ≤ now
  unexpired : now ≤ mandate.validUntil.instant
  currency : env.upper operation.currency = env.upper mandate.currency
  operationType : mandate.allowedOperations = [] ∨
    operation.operationType.value ∈ mandate.allowedOperations
  perOperation : operation.amount ≤ mandate.maxAmountPerOp

/-- **A decision other than DENY.**  Every bound the rules check on the three rows holds. -/
theorem withinMandate_of_evaluate {env : Platform} {inputs : EvaluationInputs} {agent : Agent}
    {mandate : Mandate} {operation : FinancialOperation} {result : PolicyEvaluationResult}
    (h : evaluate env inputs agent mandate operation = .ok result)
    (hd : result.decision ≠ .deny) :
    WithinMandate env inputs.now agent mandate operation := by
  unfold evaluate at h
  cases ht : evaluateRules agent mandate operation (defaultRules env inputs) .start with
  | error refusal => rw [ht] at h; cases h
  | ok t =>
    rw [ht] at h
    cases h
    obtain ⟨diags, hdiags, rfl⟩ := evaluateRules_eq_ok.mp ht
    have hno : ∀ diag ∈ diags, diag.decision ≠ .deny := fun diag hm he =>
      hd (foldl_add_deny.mpr (.inr ⟨diag, hm, he⟩))
    simp only [defaultRules, List.forall₂_cons_left_iff, Except.ok.injEq] at hdiags
    obtain ⟨_, _, rfl, ⟨_, _, rfl, ⟨_, _, _, ⟨_, _, rfl, ⟨_, _, rfl, ⟨_, _, rfl, _, rfl⟩, rfl⟩, rfl⟩,
      rfl⟩, rfl⟩, rfl⟩ := hdiags
    simp only [List.mem_cons, forall_eq_or_imp, ne_eq, agentStatusRule_deny,
      mandateLifecycleRule_deny, currencyMatchRule_deny, allowedOperationTypeRule_deny,
      perTransactionLimitRule_deny] at hno
    obtain ⟨ha, hl, -, hc, ho, hp, -⟩ := hno
    push Not at ha hl hc hp
    exact ⟨ha, hl.1, hl.2.1, hl.2.2, hc, by tauto, hp⟩

end MandatePlane.PolicyEngine

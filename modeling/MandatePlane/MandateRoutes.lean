import MandatePlane.PolicyEngine

/-!
# The mandate and agent endpoints

Issuing root mandates, delegating bounded children, suspending and revoking with
the cascade down the tree, reactivating, and changing an agent's status.

The cascade is the breadth-first loop of `_cascade_mandate_status`.  It is given one
round for every mandate and one more; a loop that would need more is reported as
never returning, and its session never commits.
-/

namespace MandatePlane.MandateRoutes

open DomainModel KeyedTable JsonValue HostEnvironment PolicyEngine

/-! ### Request bodies -/

structure MandateCreate where
  agentId : String
  grantedById : String
  currency : String
  maxAmountPerOp : ℤ
  aggregateSpendLimit : ℤ
  reviewThresholdAmount : Option ℤ
  allowedOperations : List String
  policyConfig : Dict
  validUntil : DateTime
  max_pos : 0 < maxAmountPerOp
  limit_pos : 0 < aggregateSpendLimit
  threshold_pos : ∀ threshold ∈ reviewThresholdAmount, 0 < threshold

structure MandateDelegateRequest where
  targetAgentId : String
  currency : Option String
  maxAmountPerOp : ℤ
  aggregateSpendLimit : ℤ
  reviewThresholdAmount : Option ℤ
  allowedOperations : List String
  validUntil : DateTime
  max_pos : 0 < maxAmountPerOp
  limit_pos : 0 < aggregateSpendLimit

/-! ### Issuing a root mandate -/

def isWordChar (c : Char) : Bool := c.isAlphanum || c = '_'

/-- `re.search(r"(agt_[a-zA-Z0-9_]+)", text)`: the leftmost match, as long as possible. -/
def searchAgentToken : List Char → Option (List Char)
  | [] => none
  | c :: cs =>
    let tail := ((c :: cs).drop 4).takeWhile isWordChar
    if "agt_".toList.isPrefixOf (c :: cs) && !tail.isEmpty then some ("agt_".toList ++ tail)
    else searchAgentToken cs

/-- The agent a mandate is issued to, by id or by a fragment of its name, id or type. -/
def resolveAgent (env : Platform) (agents : Table Agent) (agentId : String) :
    Except Refusal (Option Agent) :=
  let cleanedId := strip agentId
  let targetLookup := match searchAgentToken cleanedId.toList with
    | some token => String.ofList token
    | none => cleanedId
  match agents.find? targetLookup with
  | some agent => .ok (some agent)
  | none => scalarOneOrFail (agents.rows.filter fun agent =>
      env.ilikeContains agent.name targetLookup || env.ilikeContains agent.id targetLookup ||
        env.ilikeContains agent.agentType targetLookup)

def agentNotFoundText (agents : Table Agent) (agentId : String) : String :=
  let existing := agents.rows.map fun agent => s!"'{agent.name}' ({agent.id})"
  let available := if existing.isEmpty then "None" else join ", " existing
  s!"Agent '{agentId}' not found. Available agents: {available}. " ++
    "Please select an existing agent or create one on the Agents page."

def rootMandate (env : Platform) (payload : MandateCreate) (agent : Agent) (id : String)
    (now : DateTime) : Mandate where
  id
  agentId := agent.id
  grantedById := payload.grantedById
  parentMandateId := none
  delegationDepth := 0
  maxDelegationDepth := 2
  status := .active
  currency := env.upper payload.currency
  maxAmountPerOp := payload.maxAmountPerOp
  aggregateSpendLimit := payload.aggregateSpendLimit
  currentAggregateSpend := 0
  reservedSpend := 0
  delegatedChildBudgetAllocated := 0
  reviewThresholdAmount := payload.reviewThresholdAmount
  allowedOperations := payload.allowedOperations
  policyConfig := payload.policyConfig
  suspensionReason := none
  version := 1
  validFrom := now
  validUntil := payload.validUntil
  createdAt := now

def createdAudit (payload : MandateCreate) (mandate : Mandate) : AuditEvent where
  action := .mandateCreated
  actorId := payload.grantedById
  actorType := "PRINCIPAL"
  resourceId := mandate.id
  resourceType := "MANDATE"
  payload := [("agent_id", .str mandate.agentId), ("currency", .str mandate.currency),
    ("max_amount_per_op", .int mandate.maxAmountPerOp),
    ("aggregate_spend_limit", .int mandate.aggregateSpendLimit)]
  previousState := none
  newState := some [("status", .str mandate.status.value)]

/-- `POST /mandates`.  The grantor is a foreign key into the principals. -/
def createMandate (env : Platform) (payload : MandateCreate) (id : String) (now : DateTime)
    (s : Store) : Except Refusal (Committed Mandate) := do
  let agent ← orRefuse (← resolveAgent env s.agents payload.agentId)
    (.http 404 (agentNotFoundText s.agents payload.agentId))
  let mandate := rootMandate env payload agent id now
  let _ ← orRefuse (s.principals.find? payload.grantedById) .serverError
  let mandates ← orRefuse (s.mandates.insert mandate) .serverError
  return ⟨mandate, { s with mandates }.audit (createdAudit payload mandate), [.issued mandate]⟩

/-! ### Delegation -/

/-- A naive datetime read as UTC; an aware one keeps its offset. -/
def assumeUtc (d : DateTime) : DateTime :=
  match d.utcoffset with
  | none => { d with utcoffset := some 0 }
  | some _ => d

/-- `a or b` on an optional text. -/
def textOr (a : Option String) (b : String) : String := (truthyId a).getD b

/-- What is left of a parent's limit for further children. -/
def parentAvailable (parent : Mandate) : ℤ :=
  max 0 (parent.aggregateSpendLimit - (parent.currentAggregateSpend + parent.reservedSpend +
    parent.delegatedChildBudgetAllocated))

def unauthorizedOperationText (opType : String) : String :=
  s!"Privilege escalation: Operation '{opType}' is not authorized in parent mandate whitelist"

/-- `_validate_delegation_invariants`: the child's currency, unless a bound is exceeded. -/
def validateDelegationInvariants (env : Platform) (parent : Mandate)
    (payload : MandateDelegateRequest) : Except Refusal String :=
  let childCurrency := env.upper (textOr payload.currency parent.currency)
  let parentUntil := assumeUtc parent.validUntil
  let childUntil := assumeUtc payload.validUntil
  let unauthorized := payload.allowedOperations.find? (· ∉ parent.allowedOperations)
  if parent.delegationDepth ≥ parent.maxDelegationDepth then
    .error (.http 400 (s!"Max delegation depth ({parent.maxDelegationDepth}) reached " ++
      "for this mandate tree"))
  else if childCurrency ≠ env.upper parent.currency then
    .error (.http 400 (s!"Privilege escalation: Child currency '{childCurrency}' does not " ++
      s!"match parent bound '{parent.currency}'"))
  else if payload.maxAmountPerOp > parent.maxAmountPerOp then
    .error (.http 400 (s!"Privilege escalation: Requested max_amount_per_op " ++
      s!"({payload.maxAmountPerOp}) exceeds parent ceiling ({parent.maxAmountPerOp})"))
  else if parent.allowedOperations ≠ [] ∧ unauthorized.isSome then
    .error (.http 400 (unauthorizedOperationText (unauthorized.getD "")))
  else if childUntil.instant > parentUntil.instant then
    .error (.http 400 (s!"Privilege escalation: Child validity ({env.isoformat childUntil}) " ++
      s!"exceeds parent expiration ({env.isoformat parentUntil})"))
  else if payload.aggregateSpendLimit > parentAvailable parent then
    .error (.http 400 (s!"Privilege escalation: Requested aggregate limit " ++
      s!"({payload.aggregateSpendLimit}) exceeds parent remaining unallocated budget " ++
      s!"({parentAvailable parent})"))
  else .ok childCurrency

/-- `payload.review_threshold_amount or parent.review_threshold_amount`. -/
def thresholdOr (own inherited : Option ℤ) : Option ℤ :=
  match own with
  | some threshold => if threshold = 0 then inherited else own
  | none => inherited

def childMandate (payload : MandateDelegateRequest) (parent : Mandate) (currency id : String)
    (now : DateTime) : Mandate where
  id
  agentId := payload.targetAgentId
  grantedById := parent.grantedById
  parentMandateId := some parent.id
  delegationDepth := parent.delegationDepth + 1
  maxDelegationDepth := parent.maxDelegationDepth
  status := .active
  currency
  maxAmountPerOp := payload.maxAmountPerOp
  aggregateSpendLimit := payload.aggregateSpendLimit
  currentAggregateSpend := 0
  reservedSpend := 0
  delegatedChildBudgetAllocated := 0
  reviewThresholdAmount := thresholdOr payload.reviewThresholdAmount parent.reviewThresholdAmount
  allowedOperations :=
    if payload.allowedOperations.isEmpty then parent.allowedOperations
    else payload.allowedOperations
  policyConfig := parent.policyConfig
  suspensionReason := none
  version := 1
  validFrom := now
  validUntil := payload.validUntil
  createdAt := now

/-- The parent's side of a delegation. -/
def allocate (budget : ℤ) (parent : Mandate) : Mandate :=
  { parent with
    delegatedChildBudgetAllocated := parent.delegatedChildBudgetAllocated + budget
    version := parent.version + 1 }

def delegatedAudit (parent child : Mandate) : AuditEvent where
  action := .mandateCreated
  actorId := parent.agentId
  actorType := "AGENT"
  resourceId := child.id
  resourceType := "MANDATE"
  payload := [("parent_mandate_id", .str parent.id), ("target_agent_id", .str child.agentId),
    ("delegation_depth", .int child.delegationDepth),
    ("allocated_budget", .int child.aggregateSpendLimit)]
  previousState := none
  newState := some [("status", .str child.status.value)]

/-- `POST /mandates/{parent_id}/delegate`. -/
def delegateChildMandate (env : Platform) (parentId : String) (payload : MandateDelegateRequest)
    (id : String) (now : DateTime) (s : Store) : Except Refusal (Committed Mandate) := do
  let parent ← orRefuse (s.mandates.find? parentId) (.http 404 "Parent mandate not found")
  ensure (parent.status = .active)
    (.http 400 s!"Cannot delegate from parent mandate in status '{parent.status.value}'")
  let _ ← orRefuse (s.agents.find? payload.targetAgentId)
    (.http 404 "Target child agent not found")
  let currency ← validateDelegationInvariants env parent payload
  let child := childMandate payload parent currency id now
  let s := s.updateMandate parentId (allocate payload.aggregateSpendLimit)
  let mandates ← orRefuse (s.mandates.insert child) .serverError
  return ⟨child, { s with mandates }.audit (delegatedAudit parent child), [.issued child]⟩

/-! ### Status changes -/

/-- What the cascade writes to one mandate. -/
def withStatus (status : MandateStatus) (reason : String) (m : Mandate) : Mandate :=
  { m with status, suspensionReason := some reason, version := m.version + 1 }

def cascadeAudit (rootMandateId : String) (status : MandateStatus) (reason : String)
    (m : Mandate) : AuditEvent where
  action := if status = .revoked then .mandateRevoked else .mandateSuspended
  actorId := "SYSTEM"
  actorType := "SYSTEM"
  resourceId := m.id
  resourceType := "MANDATE"
  payload := [("reason", .str reason), ("cascaded_from", .str rootMandateId)]
  previousState := none
  newState := some [("status", .str status.value)]

/-- `SELECT id FROM mandates WHERE parent_mandate_id = id`. -/
def childIds (mandates : Table Mandate) (id : String) : List String :=
  (mandates.rows.filter fun m => m.parentMandateId = some id).map Mandate.id

/-- The body of the loop for one dequeued id. -/
def cascadeOne (rootMandateId : String) (status : MandateStatus) (reason currId : String)
    (s : Store) : Store :=
  match s.mandates.find? currId with
  | none => s
  | some m =>
    (s.updateMandate currId (withStatus status reason)).audit
      (cascadeAudit rootMandateId status reason m)

/-- `while queue:`, for at most `fuel` rounds. -/
def cascadeLoop (rootMandateId : String) (status : MandateStatus) (reason : String) :
    (fuel : ℕ) → (queue visited : List String) → Store → Option Store
  | _, [], _, s => some s
  | 0, _ :: _, _, _ => none
  | fuel + 1, currId :: queue, visited, s =>
    let visited := currId :: visited
    let s := cascadeOne rootMandateId status reason currId s
    cascadeLoop rootMandateId status reason fuel
      (queue ++ (childIds s.mandates currId).filter (· ∉ visited)) visited s

/-- `_cascade_mandate_status`. -/
def cascadeMandateStatus (rootMandateId : String) (status : MandateStatus) (reason : String)
    (s : Store) : Option Store :=
  cascadeLoop rootMandateId status reason (s.mandates.rows.length + 1) [rootMandateId] [] s

/-- Suspension and revocation, which differ in the status and the default reason only. -/
def changeStatusCascade (status : MandateStatus) (defaultReason mandateId : String)
    (reason : Option String) (s : Store) : Except Refusal (Committed Mandate) := do
  let mandate ← orRefuse (s.mandates.find? mandateId) (.http 404 "Mandate not found")
  let s ← orRefuse (cascadeMandateStatus mandate.id status (textOr reason defaultReason) s)
    .noReturn
  return ⟨(s.mandates.find? mandateId).getD mandate, s, []⟩

/-- `POST /mandates/{mandate_id}/suspend`. -/
def suspendMandateCascade (mandateId : String) (reason : Option String) (s : Store) :
    Except Refusal (Committed Mandate) :=
  changeStatusCascade .suspended "Parent mandate suspended" mandateId reason s

/-- `POST /mandates/{mandate_id}/revoke`. -/
def revokeMandateCascade (mandateId : String) (reason : Option String) (s : Store) :
    Except Refusal (Committed Mandate) :=
  changeStatusCascade .revoked "Parent mandate permanently revoked" mandateId reason s

/-- What a reactivation writes. -/
def reactivated (m : Mandate) : Mandate :=
  { m with status := .active, suspensionReason := none, version := m.version + 1 }

/-- A parent that is there and not ACTIVE. -/
def inactiveParent (mandates : Table Mandate) (m : Mandate) : Bool :=
  match truthyId m.parentMandateId with
  | none => false
  | some parentId => (mandates.find? parentId).any fun parent => parent.status ≠ .active

/-- `POST /mandates/{mandate_id}/activate`. -/
def activateMandate (mandateId : String) (s : Store) : Except Refusal (Committed Mandate) := do
  let mandate ← orRefuse (s.mandates.find? mandateId) (.http 404 "Mandate not found")
  ensure (!inactiveParent s.mandates mandate)
    (.http 400 "Cannot activate child mandate while parent mandate is suspended or revoked")
  return ⟨reactivated mandate, s.updateMandate mandateId reactivated, []⟩

def agentStatusAudit (agent : Agent) (status : AgentStatus) (reason : Option String) :
    AuditEvent where
  action := .agentStatusChanged
  actorId := "ADMIN"
  actorType := "PRINCIPAL"
  resourceId := agent.id
  resourceType := "AGENT"
  payload := [("reason", .str (textOr reason ""))]
  previousState := some [("status", .str agent.status.value)]
  newState := some [("status", .str status.value)]

/-- `POST /agents/{agent_id}/status`. -/
def updateAgentStatus (agentId : String) (status : AgentStatus) (reason : Option String)
    (s : Store) : Except Refusal (Committed Agent) := do
  let agent ← orRefuse (s.agents.find? agentId) (.http 404 "Agent not found")
  let setStatus (a : Agent) : Agent := { a with status }
  return ⟨setStatus agent,
    { s with agents := s.agents.modify agentId setStatus }.audit
      (agentStatusAudit agent status reason), []⟩

end MandatePlane.MandateRoutes

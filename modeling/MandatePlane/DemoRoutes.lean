import MandatePlane.AgentRoutes

/-!
# The demonstration endpoints

`reset_demo_dataset` empties every table and seeds a principal, three agents and three mandates.
The scripted acts go through the request pipeline and then write by themselves: the first one
processes a capture of its own making, the third one settles its operation whatever became of it.

An act is several commits of one session, so that what raises late keeps what was committed
early.  The texts of the answers that never vary are left out.  The journal has the observations
of the pipeline, the settlements that the third act makes by itself, and the resets.
-/

namespace MandatePlane.DemoRoutes

open DomainModel KeyedTable JsonValue HostEnvironment OperationRoutes WebhookRoutes EntryPoints
open GatewayReconciliation AgentRoutes

/-! ### The seeded rows -/

def principalId : String := "prn_alpha_corp_01"

def parentAgentId : String := "agt_shopping_parent_01"

def childAgentId : String := "agt_procurement_child_01"

def supportAgentId : String := "agt_support_dispute_01"

def parentMandateId : String := "mnd_parent_root_01"

def childMandateId : String := "mnd_child_delegated_01"

def supportMandateId : String := "mnd_support_dispute_01"

/-- `datetime.now(UTC)`. -/
def utc (microseconds : ℤ) : DateTime := ⟨microseconds, some 0⟩

/-- `timedelta(days=days)`. -/
def daysMicroseconds (days : ℤ) : ℤ := days * 86400000000

/-- When a mandate's expiry was computed and its row was flushed. -/
structure SeedTimes where
  now : ℤ
  validFrom : ℤ
  createdAt : ℤ

structure ResetInputs where
  parent : SeedTimes
  child : SeedTimes
  support : SeedTimes

def seededContact : PrincipalContact where
  id := principalId
  name := "Alpha Commerce Enterprise"
  email := "admin@alphacorp.io"

def seededAgent (id name agentType apiKeyHash : String) : Agent where
  id
  name
  ownerId := principalId
  status := .active
  apiKeyHash
  agentType

def parentAgent : Agent :=
  seededAgent parentAgentId "Primary Shopping Agent" "SHOPPING" "hash_demo_shopping_master"

def childAgent : Agent :=
  seededAgent childAgentId "Procurement Sub-Agent" "PROCUREMENT" "hash_demo_procurement_sub"

def supportAgent : Agent :=
  seededAgent supportAgentId "Customer Support Agent" "SUPPORT" "hash_demo_support_bot"

def seededMandate (id agentId : String) (parentMandateId : Option String) (delegationDepth : ℤ)
    (maxAmountPerOp aggregateSpendLimit delegatedChildBudgetAllocated : ℤ)
    (allowedOperations : List String) (days : ℤ) (times : SeedTimes) : Mandate where
  id
  agentId
  grantedById := principalId
  parentMandateId
  delegationDepth
  maxDelegationDepth := 2
  status := .active
  currency := "INR"
  maxAmountPerOp
  aggregateSpendLimit
  currentAggregateSpend := 0
  reservedSpend := 0
  delegatedChildBudgetAllocated
  reviewThresholdAmount := none
  allowedOperations
  policyConfig := []
  suspensionReason := none
  version := 1
  validFrom := utc times.validFrom
  validUntil := utc (times.now + daysMicroseconds days)
  createdAt := utc times.createdAt

def parentMandate (times : SeedTimes) : Mandate :=
  seededMandate parentMandateId parentAgentId none 0 2500000 10000000 1500000
    ["CREATE_ORDER", "CREATE_PAYMENT_LINK"] 30 times

def childMandate (times : SeedTimes) : Mandate :=
  seededMandate childMandateId childAgentId (some parentMandateId) 1 1000000 1500000 0
    ["CREATE_ORDER"] 15 times

def supportMandate (times : SeedTimes) : Mandate :=
  seededMandate supportMandateId supportAgentId none 0 500000 2500000 0 ["CREATE_REFUND"] 30 times

def seedAudit : AuditEvent where
  action := .mandateCreated
  actorId := principalId
  actorType := "PRINCIPAL"
  resourceId := parentMandateId
  resourceType := "MANDATE"
  payload := [("message", .str "Seeded deterministic demo dataset for 5-minute showcase")]
  previousState := none
  newState := none

theorem mandateIds_nodup : [parentMandateId, childMandateId, supportMandateId].Nodup := by decide

theorem agentIds_nodup : [parentAgentId, childAgentId, supportAgentId].Nodup := by decide

/-- The control plane's tables after a reset. -/
def seededStore (inputs : ResetInputs) : Store where
  principals := ⟨[⟨principalId, true⟩], List.nodup_singleton _⟩
  agents := ⟨[parentAgent, childAgent, supportAgent], agentIds_nodup⟩
  mandates := ⟨[parentMandate inputs.parent, childMandate inputs.child,
    supportMandate inputs.support], mandateIds_nodup⟩
  operations := .empty
  transactions := []
  webhookEvents := .empty
  auditEvents := [seedAudit]

def seeded (inputs : ResetInputs) : Dataset where
  database := ⟨seededStore inputs, []⟩
  reports := []
  contacts := ⟨[seededContact], List.nodup_singleton _⟩
  registrations := []

def inProduction (env : Platform) (settings : Settings) : Bool :=
  env.lower settings.environment = "production"

/-- `POST /demo/reset`. -/
def resetDemoDataset (env : Platform) (settings : Settings) (inputs : ResetInputs) :
    Except Refusal Dataset := do
  ensure (!inProduction env settings)
    (.http 403 "Demo reset endpoint is strictly disabled in production environments.")
  return seeded inputs

/-! ### The acts -/

/-- What an act meets: the digits of its idempotency key, its request's surroundings, and the
reconciliation of the third act. -/
structure ScenarioInputs where
  hex : String
  hex_length : hex.length = 8
  request : RequestInputs
  reconciliation : ReconciliationInputs

inductive JournalEntry where
  | observed (event : Event)
  | converged (op : FinancialOperation)
  | cleared

/-- The varying part of `DemoScenarioRunResponse`. -/
structure DemoScenarioRunResponse where
  stepNumber : ℤ
  decision : String
  authorized : Bool
  gatewayCallsDispatched : ℕ
  operationId : String
  amountInr : String
  operationStatus : OperationStatus
  mandateSpentPaise : ℤ
  mandateReservedPaise : Option ℤ
  policyEvaluation : Option PolicyEvaluationResult
  reconciliation : Option (ℕ × ℕ)

/-- How an act ends: what it committed, its journal, and its answer. -/
structure ActDone where
  dataset : Dataset
  journal : List JournalEntry
  answer : Except Refusal DemoScenarioRunResponse

def refused (d : Dataset) (refusal : Refusal) : ActDone := ⟨d, [], .error refusal⟩

theorem keyText_length (act hex : String) (hact : act.length = 16) (hhex : hex.length = 8) :
    8 ≤ (act ++ hex).length ∧ (act ++ hex).length ≤ 128 := by
  rw [String.length_append]
  omega

/-- The request of an act: an order of the child agent under the child mandate. -/
def actOrder (act : String) (hact : act.length = 16) (inputs : ScenarioInputs) (amount : ℤ)
    (hamount : 0 < amount) (payload : Dict) : OperationCreate where
  idempotencyKey := act ++ inputs.hex
  agentId := childAgentId
  mandateId := childMandateId
  operationType := .createOrder
  amount
  currency := "INR"
  payload
  key_length := keyText_length act inputs.hex hact inputs.hex_length
  amount_pos := hamount

theorem key1_length : "idemp_demo_act1_".length = 16 := by decide

theorem key2_length : "idemp_demo_act2_".length = 16 := by decide

theorem key3_length : "idemp_demo_act3_".length = 16 := by decide

theorem amount1_pos : (0 : ℤ) < 650000 := by decide

theorem amount2_pos : (0 : ℤ) < 65000000 := by decide

theorem amount3_pos : (0 : ℤ) < 200000 := by decide

def order1 (inputs : ScenarioInputs) : OperationCreate :=
  actOrder "idemp_demo_act1_" key1_length inputs 650000 amount1_pos
    [("product_id", .str "prod_kb_01"), ("product_name", .str "Keychron K2 Keyboard"),
      ("quantity", .int 1), ("customer_name", .str "Procurement Dept")]

def order2 (inputs : ScenarioInputs) : OperationCreate :=
  actOrder "idemp_demo_act2_" key2_length inputs 65000000 amount2_pos
    [("product_id", .str "prod_kb_01"), ("quantity", .int 100),
      ("attack_vector", .str "prompt_injection_bulk_drain")]

def order3 (inputs : ScenarioInputs) : OperationCreate :=
  actOrder "idemp_demo_act3_" key3_length inputs 200000 amount3_pos
    [("product_id", .str "prod_mouse_01"), ("product_name", .str "Ergonomic Mouse")]

/-- `request_financial_operation(payload=op_req, db=db)`: the headers are no texts. -/
def requestAct (env : Platform) (settings : Settings) (payload : OperationCreate)
    (inputs : ScenarioInputs) (s : Store) : Except Refusal (Committed FinancialOperation) :=
  requestFinancialOperation env settings payload noHeaders inputs.request s

/-- The counters of the child mandate after an act. -/
def childCounters (s : Store) (spent reserved : ℤ) : ℤ × ℤ :=
  match s.mandates.find? childMandateId with
  | none => (spent, reserved)
  | some m => (m.currentAggregateSpend, m.reservedSpend)

/-- `text[:8]`. -/
def firstEight (text : String) : String := String.ofList (text.toList.take 8)

/-- The order id the first act makes up. -/
def madeUpOrderId (op : FinancialOperation) : String := s!"order_mock_{firstEight op.operationId}"

/-- The event the first act makes up. -/
def madeUpCapture (op : FinancialOperation) : Json :=
  .obj [("event", .str "payment.captured"), ("payload", .obj [("payment", .obj [("entity",
    .obj [("id", .str s!"pay_demo_{firstEight op.operationId}"),
      ("order_id", .str (madeUpOrderId op)), ("amount", .int 650000),
      ("status", .str "captured")])])])]

def observed (events : List Event) : List JournalEntry := events.map .observed

/-- The row as the session sees it after a commit. -/
def currentStatus (s : Store) (op : FinancialOperation) : OperationStatus :=
  match s.operations.find? op.id with
  | none => op.status
  | some row => row.status

/-- Act 1: a request and the capture that is made up for it, in two commits.  An exception of the
domain handler is not caught. -/
def actOne (env : Platform) (settings : Settings) (inputs : ScenarioInputs) (d : Dataset) :
    ActDone :=
  match requestAct env settings (order1 inputs) inputs d.store with
  | .error refusal => refused d refusal
  | .ok op =>
    let requested := d.withStore op.store
    match processDomainWebhookEvent env (.str "payment.captured") (madeUpCapture op.value)
        op.store with
    | .error _ => ⟨requested, observed op.events, .error .serverError⟩
    | .ok (s, events) =>
      let counters := childCounters s 650000 0
      ⟨requested.withStore s, observed (op.events ++ events), .ok
        { stepNumber := 1
          decision := "ALLOW"
          authorized := true
          gatewayCallsDispatched := 1
          operationId := op.value.operationId
          amountInr := "₹6,500.00"
          operationStatus := currentStatus s op.value
          mandateSpentPaise := counters.1
          mandateReservedPaise := some counters.2
          policyEvaluation := op.value.policyEvaluationDetails
          reconciliation := none }⟩

/-- Act 2: a request over the limits. -/
def actTwo (env : Platform) (settings : Settings) (inputs : ScenarioInputs) (d : Dataset) :
    ActDone :=
  match requestAct env settings (order2 inputs) inputs d.store with
  | .error refusal => refused d refusal
  | .ok op =>
    ⟨d.withStore op.store, observed op.events, .ok
      { stepNumber := 2
        decision := "DENY"
        authorized := false
        gatewayCallsDispatched := 0
        operationId := op.value.operationId
        amountInr := "₹6,50,000.00"
        operationStatus := op.value.status
        mandateSpentPaise := (childCounters op.store 0 0).1
        mandateReservedPaise := none
        policyEvaluation := op.value.policyEvaluationDetails
        reconciliation := none }⟩

theorem converge_key (op : FinancialOperation) (m : Mandate) :
    Keyed.key (Mandate.commitDispatched op.amount m) = Keyed.key m := key_kept rfl

/-- `op.status = SUCCEEDED` and the commit of its amount under the child mandate. -/
def converge (op : FinancialOperation) (s : Store) : Store :=
  (s.updateOperation op.id (.moveTo .succeeded) (FinancialOperation.moveTo_key .succeeded)).updateMandate
    childMandateId (Mandate.commitDispatched op.amount) (converge_key op)

/-- Act 3: a request, a reconciliation of the last hour, and the settlement. -/
def actThree (env : Platform) (settings : Settings) (inputs : ScenarioInputs) (d : Dataset) :
    ActDone :=
  match requestAct env settings (order3 inputs) inputs d.store with
  | .error refusal => refused d refusal
  | .ok op =>
    let reported := runGatewayReconciliation { inputs.reconciliation with lookbackMinutes := 60 }
      ⟨op.store, d.reports⟩
    let s := converge op.value op.store
    let counters := childCounters s 850000 0
    ⟨{ d.withStore s with reports := reported.2.reports },
      observed op.events ++ [.converged op.value], .ok
      { stepNumber := 3
        decision := "RECONCILED"
        authorized := true
        gatewayCallsDispatched := 1
        operationId := op.value.operationId
        amountInr := "₹2,000.00"
        operationStatus := .succeeded
        mandateSpentPaise := counters.1
        mandateReservedPaise := some counters.2
        policyEvaluation := none
        reconciliation := some (reported.1.totalChecked, reported.1.discrepancies.length) }⟩

def notSeeded (step : ℤ) : Refusal :=
  .http 400 (if step = 1 then "Demo dataset not seeded. Call /demo/reset first."
    else "Demo not initialized. Run /demo/reset first.")

/-- `POST /demo/run-scenario`. -/
def runScriptedDemoScenario (env : Platform) (settings : Settings) (step : ℤ)
    (inputs : ScenarioInputs) (d : Dataset) : ActDone :=
  if inProduction env settings then
    refused d (.http 403 "Demo scenario runner is disabled in production.")
  else if step = 1 ∨ step = 2 ∨ step = 3 then
    if (d.store.mandates.find? childMandateId).isNone then refused d (notSeeded step)
    else if step = 1 then actOne env settings inputs d
    else if step = 2 then actTwo env settings inputs d
    else actThree env settings inputs d
  else refused d
    (.http 400 s!"Invalid demo step {step}. Valid showcase acts are 1, 2, and 3.")

/-! ### The journey -/

structure DemoFullJourneyResponse where
  totalActs : ℕ
  totalGatewayCalls : ℕ
  totalLossPreventedInr : String
  journeySteps : List DemoScenarioRunResponse

/-- How a journey ends; the reset at its start is a commit of its own. -/
structure JourneyDone where
  dataset : Dataset
  journal : List JournalEntry
  answer : Except Refusal DemoFullJourneyResponse

/-- The acts one after the other, until one of them is refused. -/
def runActs (env : Platform) (settings : Settings) :
    List (ℤ × ScenarioInputs) → Dataset →
      Dataset × List JournalEntry × Except Refusal (List DemoScenarioRunResponse)
  | [], d => (d, [], .ok [])
  | (step, inputs) :: acts, d =>
    let act := runScriptedDemoScenario env settings step inputs d
    match act.answer with
    | .error refusal => (act.dataset, act.journal, .error refusal)
    | .ok response =>
      let rest := runActs env settings acts act.dataset
      (rest.1, act.journal ++ rest.2.1, rest.2.2.map (response :: ·))

/-- The acts of a journey, after its reset. -/
def journeyActs (env : Platform) (settings : Settings) (first second third : ScenarioInputs)
    (d : Dataset) : JourneyDone :=
  let done := runActs env settings [(1, first), (2, second), (3, third)] d
  ⟨done.1, .cleared :: done.2.1, done.2.2.map fun steps =>
    { totalActs := 3
      totalGatewayCalls := (steps.map DemoScenarioRunResponse.gatewayCallsDispatched).sum
      totalLossPreventedInr := "₹6,50,000.00"
      journeySteps := steps }⟩

/-- `POST /demo/run-journey`. -/
def runFullFiveMinuteJourney (env : Platform) (settings : Settings) (reset : ResetInputs)
    (first second third : ScenarioInputs) (d : Dataset) : JourneyDone :=
  match resetDemoDataset env settings reset with
  | .error refusal => ⟨d, [], .error refusal⟩
  | .ok d => journeyActs env settings first second third d

end MandatePlane.DemoRoutes

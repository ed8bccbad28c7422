import MandatePlane.ControlPlane
import Mathlib.Data.List.MinMax

/-!
# The chat endpoint and the mandates it issues

An agent that is spoken to without an ACTIVE mandate is issued a new one, below no
parent, and it is committed with the turn.  The tool calls of a turn go through the
request pipeline and are requests of their own, so what is left of the endpoint is
the issue.  The interactive control plane is the control plane with this action.
-/

namespace MandatePlane.AgentChat

open DomainModel KeyedTable LabelledRun LedgerView HostEnvironment HandlerPostings
open ControlPlane MandateSteps CallerAuth

/-! ### The endpoint -/

/-- `... ORDER BY created_at DESC`, the first row. -/
def newest (mandates : List Mandate) : Option Mandate :=
  @List.argmax Mandate ℤ Int.instLinearOrder.toPreorder Int.decLt
    (fun m => m.createdAt.instant) mandates

/-- What a mandate of the chat endpoint allows: the ceiling of one operation, the limit, the
operations. -/
def chatBounds (agentType : String) : ℤ × ℤ × List String :=
  if agentType = "SUPPORT" then (500000, 2500000, ["CREATE_REFUND"])
  else if agentType = "SHOPPING" then (2500000, 10000000, ["CREATE_ORDER", "CREATE_PAYMENT_LINK"])
  else (1000000, 1500000, ["CREATE_ORDER"])

/-- Thirty days, in microseconds. -/
def thirtyDays : ℤ := 30 * 24 * 60 * 60 * 1000000

def reissuedMandate (env : Platform) (agent : Agent) (prevMandate : Option Mandate) (hex : String)
    (now : DateTime) : Mandate :=
  let bounds := chatBounds (env.upper agent.agentType)
  { id := s!"mnd_{env.lower agent.agentType}_{hex}"
    agentId := agent.id
    grantedById := agent.ownerId
    parentMandateId := none
    delegationDepth := (prevMandate.map Mandate.delegationDepth).getD 0
    maxDelegationDepth := 2
    status := .active
    currency := "INR"
    maxAmountPerOp := bounds.1
    aggregateSpendLimit := bounds.2.1
    currentAggregateSpend := 0
    reservedSpend := 0
    delegatedChildBudgetAllocated := 0
    reviewThresholdAmount := none
    allowedOperations := bounds.2.2
    policyConfig := []
    suspensionReason := none
    version := 1
    validFrom := now
    validUntil := { now with wallclock := now.wallclock + thirtyDays }
    createdAt := now }

/-- The agent a chat is with, which a credential must match if one is sent. -/
def chatAgent (env : Platform) (settings : Settings) (agentId : String) (headers : CallerHeaders)
    (agents : Table Agent) : Except Refusal (Option Agent) :=
  if (truthyHeader headers.xAgentKey).isSome || (truthyHeader headers.authorization).isSome then
    authenticateAgentCaller env settings agents { headers with xAgentId := some agentId } true
  else .ok (agents.find? agentId)

/-- `POST /agents/{agent_id}/chat`, up to the conversation: the mandate the turn runs under. -/
def chatWithAgent (env : Platform) (settings : Settings) (agentId : String)
    (headers : CallerHeaders) (hex : String) (now : DateTime) (s : Store) :
    Except Refusal (Committed Mandate) := do
  let agent ← orRefuse (← chatAgent env settings agentId headers s.agents)
    (.http 404 "Agent not found")
  let own := s.mandates.rows.filter fun m => m.agentId = agent.id
  match newest (own.filter fun m => m.status = .active) with
  | some mandate => return ⟨mandate, s, []⟩
  | none =>
    let mandate := reissuedMandate env agent (newest own) hex now
    let mandates ← orRefuse (s.mandates.insert mandate) .serverError
    return ⟨mandate, { s with mandates }, [.issued mandate]⟩

/-- **A chat changes nothing or issues one mandate without a parent.** -/
theorem chatWithAgent_spec {env : Platform} {settings : Settings} {agentId : String}
    {headers : CallerHeaders} {hex : String} {now : DateTime} {s : Store} {c : Committed Mandate}
    (h : chatWithAgent env settings agentId headers hex now s = .ok c) :
    (c.store = s ∧ c.events = []) ∨ ∃ agent previous mandates,
      s.mandates.insert (reissuedMandate env agent previous hex now) = some mandates ∧
        c.store = { s with mandates } ∧
        c.events = [.issued (reissuedMandate env agent previous hex now)] := by
  obtain ⟨found, -, h⟩ := bind_eq_ok.mp h
  obtain ⟨agent, -, h⟩ := bind_eq_ok.mp h
  dsimp only at h
  split at h
  · cases h
    exact .inl ⟨rfl, rfl⟩
  · obtain ⟨mandates, hinsert, h⟩ := bind_eq_ok.mp h
    rw [orRefuse_eq_ok] at hinsert
    cases h
    exact .inr ⟨agent, _, mandates, hinsert, rfl, rfl⟩

theorem reissuedMandate_named (env : Platform) (agent : Agent) (previous : Option Mandate)
    (hex : String) (now : DateTime) :
    (reissuedMandate env agent previous hex now).id.isEmpty = false := by
  rw [String.isEmpty_eq_false_iff]
  simp [reissuedMandate, toString]

/-! ### The interactive control plane -/

inductive Call where
  | control (a : Action)
  | chat (agentId : String) (headers : CallerHeaders) (hex : String) (now : DateTime)

def answer (env : Platform) (settings : Settings) (s : Store) : Call → Store × List Event
  | .control a => perform env settings s a
  | .chat agentId headers hex now =>
    outcome s (chatWithAgent env settings agentId headers hex now s)

/-- The control plane with the chat endpoint. -/
def interactivePlane (env : Platform) (settings : Settings) : Machine Store Call Event where
  next s c := (answer env settings s c).1
  log s c := (answer env settings s c).2

/-- **One step of the interactive control plane.** -/
inductive CallStep (env : Platform) (settings : Settings) (s : Store) :
    Call → List Event → Store → Prop
  | control {a : Action} {events : List Event} {s' : Store} (h : Step env settings s a events s') :
      CallStep env settings s (.control a) events s'
  | silent (agentId : String) (headers : CallerHeaders) (hex : String) (now : DateTime) :
      CallStep env settings s (.chat agentId headers hex now) [] s
  | reissued {agentId : String} {headers : CallerHeaders} {hex : String} {now : DateTime}
      {agent : Agent} {previous : Option Mandate} {mandates : Table Mandate}
      (h : s.mandates.insert (reissuedMandate env agent previous hex now) = some mandates) :
      CallStep env settings s (.chat agentId headers hex now)
        [.issued (reissuedMandate env agent previous hex now)] { s with mandates }

theorem answer_step (env : Platform) (settings : Settings) (s : Store) (c : Call) :
    CallStep env settings s c (answer env settings s c).2 (answer env settings s c).1 := by
  cases c with
  | control a => exact .control (perform_step env settings s a)
  | chat agentId headers hex now =>
    rcases outcome_cases s (chatWithAgent env settings agentId headers hex now s) with
      h | ⟨c, hc, h⟩ <;> rw [answer, h]
    · exact .silent agentId headers hex now
    · rcases chatWithAgent_spec hc with ⟨hs, he⟩ | ⟨agent, previous, mandates, hinsert, hs, he⟩
      · dsimp only
        rw [hs, he]
        exact .silent agentId headers hex now
      · dsimp only
        rw [hs, he]
        exact .reissued hinsert

/-- How a step changes the terms: not at all, by a mandate without a parent, or by a delegation. -/
theorem CallStep.terms_cases {env : Platform} {settings : Settings} {s s' : Store} {c : Call}
    {events : List Event} (h : CallStep env settings s c events s') :
    terms s' = terms s ∨
      (∃ m, m.parentMandateId = none ∧ (terms s).insert (termsOf m) = some (terms s')) ∨
      ∃ parentId payload id now parent currency, c = .control (.delegate parentId payload id now) ∧
        Delegated env s parentId payload id.text now parent currency s'.mandates := by
  cases h with
  | control h =>
    rcases h.allotments_cases with he | ⟨_, _, _, _, -, hi⟩ | ⟨_, _, _, _, _, _, rfl, hd⟩
    · exact .inl (terms_of_allotments he)
    · exact .inr (.inl ⟨_, rfl, Table.mapRows_insert key_termsOf hi⟩)
    · exact .inr (.inr ⟨_, _, _, _, _, _, rfl, hd⟩)
  | silent => exact .inl rfl
  | reissued h => exact .inr (.inl ⟨_, rfl, Table.mapRows_insert key_termsOf h⟩)

/-- The control plane's own runs are runs of the interactive one. -/
theorem run_control (env : Platform) (settings : Settings) (s : Store) (actions : List Action) :
    (interactivePlane env settings).run s (actions.map .control) =
      (controlPlane env settings).run s actions := by
  rw [Machine.run, Machine.run, List.foldl_map]
  rfl

end MandatePlane.AgentChat

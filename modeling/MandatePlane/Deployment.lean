import MandatePlane.EvaluationRoutes
import MandatePlane.ToolReplies

/-!
# The deployment

The system together with everything else that writes: registration, the reconciliation on
request, the benchmark, the demonstration, and the seeding at startup.  Every call
is taken apart into steps on the control plane's tables: calls of the interactive control plane,
captures that come without a delivery, new rows of agents and principals, and resets.  The one
other write is the settlement at the end of the third act.
-/

namespace MandatePlane.Deployment

open DomainModel KeyedTable LabelledRun JsonValue HostEnvironment HandlerPostings CallerAuth
open OperationRoutes WebhookRoutes ControlPlane AgentChat EntryPoints ActiveMandates AgentRunner
open EvaluationHarness GatewayReconciliation TransactionLookup AgentRoutes DemoRoutes
open EvaluationRoutes

/-! ### The machine -/

inductive DeploymentCall where
  | plane (act : Activity)
  | register (payload : AgentCreate) (inputs : RegistrationInputs)
  | reconcileNow (inputs : ReconciliationInputs)
  | reset (inputs : ResetInputs)
  | scenario (step : ℤ) (inputs : ScenarioInputs)
  | journey (reset : ResetInputs) (first second third : ScenarioInputs)
  | benchmark (payload : RunBenchmarkRequest) (scenarios : List AdversarialScenario)
      (reset : ResetInputs)
  | startup (autoSeedDemo : Bool) (reset : ResetInputs)

/-- What the deployment takes from outside the repository. -/
structure Host where
  conversions : Conversions
  texts : LedgerTexts

/-- What a reset leaves, or what was there. -/
def afterReset (d : Dataset) : Except Refusal Dataset → Dataset × List JournalEntry
  | .ok d => (d, [.cleared])
  | .error _ => (d, [])

/-- The seeding of `lifespan`: outside production, where it is configured, and no agent is there. -/
def bootstrap (env : Platform) (settings : Settings) (autoSeedDemo : Bool) (reset : ResetInputs)
    (d : Dataset) : Dataset × List JournalEntry :=
  if autoSeedDemo && !inProduction env settings && d.store.agents.rows.isEmpty then
    afterReset d (resetDemoDataset env settings reset)
  else (d, [])

/-- `trigger_reconciliation`, which looks at the last day. -/
def triggerReconciliation (inputs : ReconciliationInputs) (d : Dataset) : Dataset :=
  { d with reports := (runGatewayReconciliation { inputs with lookbackMinutes := 1440 }
      ⟨d.store, d.reports⟩).2.reports }

/-- One call, run to completion. -/
def deploy (env : Platform) (settings : Settings) (host : Host) (d : Dataset) :
    DeploymentCall → Dataset × List JournalEntry
  | .plane act =>
    ({ d with database := (system env settings host.conversions).next d.database act },
      observed ((system env settings host.conversions).log d.database act))
  | .register payload inputs =>
    match registerAgent env payload inputs d with
    | .ok (_, d) => (d, [])
    | .error _ => (d, [])
  | .reconcileNow inputs => (triggerReconciliation inputs d, [])
  | .reset inputs => afterReset d (resetDemoDataset env settings inputs)
  | .scenario step inputs =>
    let done := runScriptedDemoScenario env settings step inputs d
    (done.dataset, done.journal)
  | .journey reset first second third =>
    let done := runFullFiveMinuteJourney env settings reset first second third d
    (done.dataset, done.journal)
  | .benchmark payload scenarios reset =>
    let done := executeAdversarialBenchmark env settings host.conversions host.texts payload
      scenarios reset d
    (done.dataset, done.journal)
  | .startup autoSeedDemo reset => bootstrap env settings autoSeedDemo reset d

/-- The deployment as a machine. -/
def deployment (env : Platform) (settings : Settings) (host : Host) :
    Machine Dataset DeploymentCall JournalEntry where
  next d c := (deploy env settings host d c).1
  log d c := (deploy env settings host d c).2

/-! ### Steps on the tables -/

/-- Requests and chats, which any entry may lead to. -/
def IsEntry : Call → Prop
  | .control (.request _ _ _) => True
  | .chat _ _ _ _ => True
  | _ => False

/-- What a registration writes: an agent whose owner is stored, and perhaps the owner. -/
structure Enrolled (s : Store) (principals : Table Principal) (agents : Table Agent) : Prop where
  kept : ∀ id principal, s.principals.find? id = some principal →
    principals.find? id = some principal
  agent : ∃ agent owner, s.agents.insert agent = some agents ∧
    principals.find? agent.ownerId = some owner

/-- **One step on the control plane's tables**, with its part of the journal; `P` is what is known
of the calls that are made. -/
inductive TableStep (env : Platform) (settings : Settings) (P : Store → Call → Prop) (s : Store) :
    List JournalEntry → Store → Prop
  | called (c : Call) (hc : P s c) :
      TableStep env settings P s (observed (answer env settings s c).2) (answer env settings s c).1
  | captured {eventData : Json} {s' : Store} {events : List Event}
      (h : processDomainWebhookEvent env (.str "payment.captured") eventData s = .ok (s', events)) :
      TableStep env settings P s (observed events) s'
  | enrolled (principals : Table Principal) (agents : Table Agent)
      (h : Enrolled s principals agents) :
      TableStep env settings P s [] { s with principals, agents }
  | cleared (inputs : ResetInputs) (h : inProduction env settings = false) :
      TableStep env settings P s [.cleared] (seededStore inputs)

/-- Steps one after the other. -/
inductive Path (env : Platform) (settings : Settings) (P : Store → Call → Prop) (s : Store) :
    List JournalEntry → Store → Prop
  | refl : Path env settings P s [] s
  | step {j j' : List JournalEntry} {s₁ s₂ : Store} (h : Path env settings P s j s₁)
      (hstep : TableStep env settings P s₁ j' s₂) : Path env settings P s (j ++ j') s₂

/-- **What a call comes down to**: steps, and perhaps one settlement at their end. -/
inductive CallPath (env : Platform) (settings : Settings) (P : Store → Call → Prop) (s : Store) :
    List JournalEntry → Store → Prop
  | quiet {j : List JournalEntry} {s' : Store} (h : Path env settings P s j s') :
      CallPath env settings P s j s'
  | converging {j : List JournalEntry} {s₁ : Store} {op : FinancialOperation}
      (h : Path env settings P s j s₁) (hrow : s₁.operations.find? op.id = some op)
      (hchild : ∃ m, s₁.mandates.find? childMandateId = some m) :
      CallPath env settings P s (j ++ [.converged op]) (converge op s₁)

section Paths

variable {env : Platform} {settings : Settings} {P : Store → Call → Prop} {s s₁ s₂ : Store}
  {j j' : List JournalEntry}

theorem Path.single (h : TableStep env settings P s j s₁) : Path env settings P s j s₁ :=
  .step .refl h

theorem Path.trans (h : Path env settings P s j s₁) (h' : Path env settings P s₁ j' s₂) :
    Path env settings P s (j ++ j') s₂ := by
  induction h' with
  | refl =>
    rw [List.append_nil]
    exact h
  | step _ hstep ih =>
    rw [← List.append_assoc]
    exact .step ih hstep

theorem CallPath.after (h : Path env settings P s j s₁) (h' : CallPath env settings P s₁ j' s₂) :
    CallPath env settings P s (j ++ j') s₂ := by
  cases h' with
  | quiet h' => exact .quiet (h.trans h')
  | converging h' hrow hchild =>
    rw [← List.append_assoc]
    exact .converging (h.trans h') hrow hchild

@[simp] theorem observed_append (events events' : List Event) :
    observed (events ++ events') = observed events ++ observed events' := List.map_append

/-- Calls of the interactive plane are steps. -/
theorem path_of_calls (calls : List Call) (hcalls : ∀ c ∈ calls, ∀ s, P s c) :
    Path env settings P s (observed ((interactivePlane env settings).trace s calls))
      ((interactivePlane env settings).run s calls) := by
  induction calls generalizing s with
  | nil => exact .refl
  | cons c calls ih =>
    rw [Machine.trace_cons, Machine.run_cons, observed_append]
    exact (Path.single (.called c (hcalls c List.mem_cons_self s))).trans
      (ih fun c' hc' => hcalls c' (List.mem_cons_of_mem _ hc'))

theorem path_of_reached {Q : Call → Prop} {s' : Store} {events : List Event}
    (h : Reached env settings Q s s' events) (hQ : ∀ c, Q c → ∀ s, P s c) :
    Path env settings P s (observed events) s' := by
  obtain ⟨calls, hall, rfl, rfl⟩ := h
  exact path_of_calls calls fun c hc => hQ c (hall c hc)

/-- What an entry leads to is a request or a chat. -/
theorem isEntry_of_leads {e : Entry} {c : Call} (h : e.Leads env settings s c) : IsEntry c := by
  cases e with
  | operations payload headers inputs =>
    obtain rfl : c = _ := h
    trivial
  | mcp request headers inputs =>
    obtain ⟨_, _, _, -, -, -, -, rfl⟩ := h
    trivial
  | chat agentId headers hex now turn =>
    rcases h with rfl | ⟨_, _, _, -, -, rfl⟩ <;> trivial

/-- A request is one call of the control plane. -/
theorem path_of_request (hentry : ∀ c, IsEntry c → ∀ s, P s c) {payload : OperationCreate}
    {headers : CallerHeaders} {inputs : RequestInputs} {op : Committed FinancialOperation}
    (h : requestFinancialOperation env settings payload headers inputs s = .ok op) :
    Path env settings P s (observed op.events) op.store := by
  have hstep : TableStep env settings P s _ _ :=
    .called (.control (.request payload headers inputs))
      (hentry (.control (.request payload headers inputs)) trivial s)
  rw [answer, perform, h] at hstep
  exact .single hstep

end Paths

/-! ### Benchmarks -/

/-- A property of sessions that the turns of an agent keep. -/
structure KeptByTurns (env : Platform) (settings : Settings) (agentId : String)
    (I : Session → Prop) : Prop where
  commit : ∀ x, I x → I x.commit
  trace : ∀ x toolName, I x → I (x.addTrace ⟨agentId, toolName⟩)
  request : ∀ x x' payload inputs, I x →
    requestInSession env settings payload inputs x = .ok x' → I x'

section Benchmarks

variable {env : Platform} {settings : Settings} {host : Conversions} {texts : LedgerTexts}
  {agent : Agent} {mandateId : String} {s : Store} {x : TurnSession} {I : Session → Prop}

theorem dispatch_keeps (hI : KeptByTurns env settings agent.id I) (h : I x.session)
    {call : LlmToolCall} {d : EvaluationHarness.Dispatched}
    (hd : dispatch env settings host texts agent mandateId call x = .ok d) :
    I d.session.session := by
  unfold dispatch at hd
  split at hd
  · obtain ⟨_, -, rfl⟩ := except_map_eq_ok hd
    exact h
  · split at hd
    · cases hd
    · cases hd
      exact h
    · rename_i payload _
      split at hd
      · cases hd
      · rename_i done hdone
        cases hd
        dsimp only
        split
        · rename_i hkey
          refine hI.request x.session _ payload call.inputs h ?_
          rw [requestInSession, show x.session.view.store = x.view from rfl, hdone, hkey]
          rfl
        · exact h

theorem runTools_keeps (hI : KeptByTurns env settings agent.id I) (host : Conversions)
    (texts : LedgerTexts) (mandateId : String) (calls : List LlmToolCall) (h : I x.session) :
    (∀ y, runTools env settings host texts agent mandateId calls x = .error y → I y.session) ∧
      ∀ y, runTools env settings host texts agent mandateId calls x = .ok y → I y.1.session := by
  induction calls generalizing x with
  | nil =>
    refine ⟨fun y hy => ?_, fun y hy => ?_⟩
    · cases hy
    · cases hy
      exact h
  | cons call calls ih =>
    rw [runTools]
    cases hd : dispatch env settings host texts agent mandateId call x with
    | error refusal =>
      refine ⟨fun y hy => ?_, fun y hy => ?_⟩
      · cases hy
        exact h
      · cases hy
    | ok d =>
      obtain ⟨hfailed, hdone⟩ := ih (x := d.session.addTrace ⟨agent.id, call.name, d.opId⟩)
        (hI.trace _ call.name (dispatch_keeps hI h hd))
      refine ⟨fun y hy => hfailed y (except_map_eq_error hy), fun y hy => ?_⟩
      obtain ⟨rest, hrest, rfl⟩ := except_map_eq_ok hy
      exact hdone rest hrest

/-- **What turns keep, a benchmark keeps**, wherever it raises. -/
theorem runScenarios_keeps (hI : KeptByTurns env settings agent.id I) (host : Conversions)
    (texts : LedgerTexts) (mandateId : String) (scenarios : List AdversarialScenario)
    (h : I x.session) :
    (∀ y, runScenarios env settings host texts agent mandateId scenarios x = .error y →
        I y.session) ∧
      ∀ y, runScenarios env settings host texts agent mandateId scenarios x = .ok y →
        I y.1.session := by
  induction scenarios generalizing x with
  | nil =>
    refine ⟨fun y hy => ?_, fun y hy => ?_⟩
    · cases hy
    · cases hy
      exact h
  | cons scenario scenarios ih =>
    obtain ⟨hfailed, hdone⟩ := runTools_keeps hI host texts mandateId [scenario.toolCall] h
    rw [runScenarios, executeSingleScenario, EvaluationHarness.executeTurn]
    cases htools : runTools env settings host texts agent mandateId [scenario.toolCall] x with
    | error z =>
      refine ⟨fun y hy => ?_, fun y hy => ?_⟩
      · cases hy
        exact hfailed _ htools
      · cases hy
    | ok z =>
      obtain ⟨hlater, hrest⟩ := ih (x := z.1.commit) (hI.commit _ (hdone z htools))
      refine ⟨fun y hy => hlater y (except_map_eq_error hy), fun y hy => ?_⟩
      obtain ⟨rest, hrun, rfl⟩ := except_map_eq_ok hy
      exact hrest rest hrun

/-- Turns only request. -/
theorem traced_kept (agentId : String) :
    KeptByTurns env settings agentId (Session.Traced env settings IsEntry s) where
  commit _ h := h.commit
  trace _ _ h := h.addTrace _
  request _ _ _ _ h hx := h.request trivial hx

/-- **What a benchmark commits is reached by requests.** -/
theorem runBenchmark_reached {mandate : Mandate} {multiplier : ℕ}
    {scenarios : List AdversarialScenario} {d : Dataset} :
    ∃ events, Reached env settings IsEntry d.store
        (runBenchmark env settings host texts agent mandate multiplier scenarios d).dataset.store
        events ∧
      (runBenchmark env settings host texts agent mandate multiplier scenarios d).journal =
        observed events := by
  have hopened : (openTurn d.database).session.Traced env settings IsEntry d.store :=
    ⟨.refl d.store, .refl d.store⟩
  obtain ⟨hfailed, hdone⟩ :=
    runScenarios_keeps (traced_kept agent.id) host texts mandate.id scenarios hopened
  unfold runBenchmark runEvaluation
  cases hrun : runScenarios env settings host texts agent mandate.id scenarios
      (openTurn d.database) with
  | error x => exact ⟨_, (hfailed x hrun).committed, rfl⟩
  | ok x => exact ⟨_, (hdone x hrun).committed, rfl⟩

theorem runBenchmark_path {P : Store → Call → Prop} (hentry : ∀ c, IsEntry c → ∀ s, P s c)
    {mandate : Mandate} {multiplier : ℕ} {scenarios : List AdversarialScenario} {d : Dataset} :
    Path env settings P d.store
      (runBenchmark env settings host texts agent mandate multiplier scenarios d).journal
      (runBenchmark env settings host texts agent mandate multiplier scenarios d).dataset.store := by
  obtain ⟨events, hreached, hjournal⟩ := @runBenchmark_reached env settings host texts agent mandate
    multiplier scenarios d
  rw [hjournal]
  exact path_of_reached hreached hentry

end Benchmarks

/-! ### Every call -/

section Calls

variable {env : Platform} {settings : Settings} {host : Host} {P : Store → Call → Prop}
  {d : Dataset}

/-- The row a request answers with is the stored one. -/
theorem row_of_request {payload : OperationCreate} {headers : CallerHeaders}
    {inputs : RequestInputs} {s : Store} {op : Committed FinancialOperation}
    (h : requestFinancialOperation env settings payload headers inputs s = .ok op) :
    op.store.operations.find? op.value.id = some op.value := by
  rcases request_returned h with ⟨existing, hexisting, rfl⟩ | ⟨agent, mandate, s₁, result, hev, rfl⟩
  · have hrows := scalarOneOrFail_eq_ok.mp hexisting
    have hmem : existing ∈ s.operations.rows.filter fun op =>
        op.idempotencyKey = payload.idempotencyKey := by
      rw [hrows]
      exact List.mem_singleton_self existing
    exact Table.find?_of_mem (List.mem_of_mem_filter hmem)
  · obtain ⟨-, -, hfind, -⟩ := LedgerView.ledger_insertOperation hev.inserted
    have hstored := @ToolReplies.actOnDecision_stored env payload inputs mandate
      (withDetails result (newOperation env payload inputs)) result
      (recordEvaluation payload (newOperation env payload inputs) result s₁)
      (ToolReplies.updateOperation_stored hfind (withDetails result) fun _ => key_kept rfl)
    have hid := Table.key_of_find? hstored
    rw [show (actOnDecision env payload inputs mandate
      (withDetails result (newOperation env payload inputs)) result
      (recordEvaluation payload (newOperation env payload inputs) result s₁)).value.id =
        (withDetails result (newOperation env payload inputs)).id from hid]
    exact hstored

/-- A request keeps every mandate. -/
theorem mandate_of_request {payload : OperationCreate} {headers : CallerHeaders}
    {inputs : RequestInputs} {s : Store} {op : Committed FinancialOperation}
    (h : requestFinancialOperation env settings payload headers inputs s = .ok op) {id : String}
    {m : Mandate} (hm : s.mandates.find? id = some m) :
    ∃ m', op.store.mandates.find? id = some m' := by
  have hstep := perform_step env settings s (.request payload headers inputs)
  rw [perform, h] at hstep
  have hterms : (LedgerView.terms s).find? id = some (LedgerView.termsOf m) := by
    rw [LedgerView.terms_find?, hm]
    rfl
  have hkept := hstep.terms_kept hterms
  rw [LedgerView.terms_find?] at hkept
  obtain ⟨m', hm', -⟩ := Option.map_eq_some_iff.mp hkept
  exact ⟨m', hm'⟩

theorem actOne_path (hentry : ∀ c, IsEntry c → ∀ s, P s c) (inputs : ScenarioInputs) :
    Path env settings P d.store (actOne env settings inputs d).journal
      (actOne env settings inputs d).dataset.store := by
  unfold actOne
  split
  · exact .refl
  · rename_i op hop
    have hrequested := path_of_request hentry hop
    split
    · exact hrequested
    · rename_i s events hcaptured
      dsimp only
      rw [observed_append]
      exact hrequested.trans (.single (.captured hcaptured))

theorem actTwo_path (hentry : ∀ c, IsEntry c → ∀ s, P s c) (inputs : ScenarioInputs) :
    Path env settings P d.store (actTwo env settings inputs d).journal
      (actTwo env settings inputs d).dataset.store := by
  unfold actTwo
  split
  · exact .refl
  · rename_i op hop
    exact path_of_request hentry hop

theorem actThree_path (hentry : ∀ c, IsEntry c → ∀ s, P s c) (inputs : ScenarioInputs)
    {m : Mandate} (hchild : d.store.mandates.find? childMandateId = some m) :
    CallPath env settings P d.store (actThree env settings inputs d).journal
      (actThree env settings inputs d).dataset.store := by
  unfold actThree
  split
  · exact .quiet .refl
  · rename_i op hop
    exact .converging (path_of_request hentry hop) (row_of_request hop)
      (mandate_of_request hop hchild)

/-- Acts before the third are steps. -/
theorem scenario_path (hentry : ∀ c, IsEntry c → ∀ s, P s c) {step : ℤ} (hstep : step ≠ 3)
    (d : Dataset) (inputs : ScenarioInputs) :
    Path env settings P d.store (runScriptedDemoScenario env settings step inputs d).journal
      (runScriptedDemoScenario env settings step inputs d).dataset.store := by
  unfold runScriptedDemoScenario
  split
  · exact .refl
  · split
    · rename_i hact
      split
      · exact .refl
      · split
        · exact actOne_path hentry inputs
        · rename_i hone
          rw [if_pos ((hact.resolve_left hone).resolve_right hstep)]
          exact actTwo_path hentry inputs
    · exact .refl

/-- The third act ends in its settlement. -/
theorem scenario_callPath (hentry : ∀ c, IsEntry c → ∀ s, P s c) (step : ℤ) (d : Dataset)
    (inputs : ScenarioInputs) :
    CallPath env settings P d.store (runScriptedDemoScenario env settings step inputs d).journal
      (runScriptedDemoScenario env settings step inputs d).dataset.store := by
  by_cases hthree : step = 3
  · subst hthree
    unfold runScriptedDemoScenario
    split
    · exact .quiet .refl
    · rw [if_pos (.inr (.inr rfl))]
      split
      · exact .quiet .refl
      · rename_i hseeded
        rw [if_neg (by decide), if_neg (by decide)]
        obtain ⟨m, hm⟩ := Option.ne_none_iff_exists'.mp
          fun hnone => hseeded (Option.isNone_iff_eq_none.mpr hnone)
        exact actThree_path hentry inputs hm
  · exact .quiet (scenario_path hentry hthree d inputs)

/-- The acts of a journey settle by themselves at their end only. -/
theorem runActs_path (hentry : ∀ c, IsEntry c → ∀ s, P s c) (first second third : ScenarioInputs) :
    CallPath env settings P d.store
      (runActs env settings [(1, first), (2, second), (3, third)] d).2.1
      (runActs env settings [(1, first), (2, second), (3, third)] d).1.store := by
  have hone := @scenario_path env settings P hentry 1 (by decide) d first
  rw [runActs]
  dsimp only
  split
  · exact .quiet hone
  · refine .after hone ?_
    generalize (runScriptedDemoScenario env settings 1 first d).dataset = d₁
    have htwo := @scenario_path env settings P hentry 2 (by decide) d₁ second
    rw [runActs]
    dsimp only
    split
    · exact .quiet htwo
    · refine .after htwo ?_
      generalize (runScriptedDemoScenario env settings 2 second d₁).dataset = d₂
      have hthree := @scenario_callPath env settings P hentry 3 d₂ third
      rw [runActs]
      dsimp only
      split
      · exact hthree
      · rw [runActs, List.append_nil]
        exact hthree

theorem reset_path {inputs : ResetInputs} {d' : Dataset}
    (h : resetDemoDataset env settings inputs = .ok d') :
    Path env settings P d.store [.cleared] d'.store ∧ d' = seeded inputs := by
  obtain ⟨_, hproduction, h⟩ := bind_eq_ok.mp h
  rw [ensure_eq_ok] at hproduction
  cases h
  exact ⟨.single (.cleared inputs (by simpa using hproduction)), rfl⟩

theorem afterReset_path (inputs : ResetInputs) :
    Path env settings P d.store (afterReset d (resetDemoDataset env settings inputs)).2
      (afterReset d (resetDemoDataset env settings inputs)).1.store := by
  cases hreset : resetDemoDataset env settings inputs with
  | error refusal => exact .refl
  | ok d' => exact (reset_path hreset).1

/-- The owner of a registration is stored, and nothing else is written for it. -/
theorem resolveOwner_spec {ownerId id : String} {d' : Dataset}
    (h : resolveOwner ownerId d = .ok (id, d')) :
    ∃ principals owner, d'.store = { d.store with principals } ∧
      (∀ id principal, d.store.principals.find? id = some principal →
        principals.find? id = some principal) ∧ principals.find? id = some owner := by
  rcases resolveOwner_cases h with ⟨owner, howner, rfl⟩ | ⟨rfl, hinsert⟩
  · exact ⟨_, owner, rfl, fun _ _ hold => hold, howner⟩
  · obtain ⟨-, principals, contacts, hprincipals, -, rfl⟩ :=
      Dataset.insertPrincipal_eq_some hinsert
    exact ⟨principals, _, rfl, fun _ _ hold => Table.find?_insert_of_some hprincipals hold,
      Table.find?_insert_self hprincipals⟩

/-- A registration writes agents and principals only. -/
theorem register_path (payload : AgentCreate) (inputs : RegistrationInputs) :
    Path env settings P d.store [] (deploy env settings host d (.register payload inputs)).1.store := by
  rw [deploy]
  cases hregister : registerAgent env payload inputs d with
  | error refusal => exact .refl
  | ok done =>
    obtain ⟨agent, d'⟩ := done
    obtain ⟨ownerId, d₁, agents, howner, rfl, hinsert, rfl⟩ := registerAgent_cases hregister
    obtain ⟨principals, owner, hprincipals, hkept, hfound⟩ := resolveOwner_spec howner
    show Path env settings P d.store [] { d₁.store with agents }
    rw [hprincipals] at hinsert ⊢
    exact .single (.enrolled principals agents ⟨hkept, _, owner, hinsert, hfound⟩)

/-- **What every call of the deployment comes down to.** -/
theorem deploy_path (hentry : ∀ c, IsEntry c → ∀ s, P s c) {c : DeploymentCall}
    (hcontrol : ∀ a, c = .plane (.control a) → P d.store (.control a)) :
    CallPath env settings P d.store (deploy env settings host d c).2
      (deploy env settings host d c).1.store := by
  cases c with
  | plane act =>
    cases act with
    | enter e =>
      obtain ⟨calls, hall, hrun, htrace⟩ := @enter_reached env settings host.conversions d.database e
      refine .quiet (path_of_reached (Q := IsEntry) ⟨calls, fun c hc => isEntry_of_leads (hall c hc),
        hrun, htrace⟩ hentry)
    | control a => exact .quiet (.single (.called (.control a) (hcontrol a rfl)))
  | register payload inputs =>
    have hpath := @register_path env settings host P d payload inputs
    have hlog : (deploy env settings host d (.register payload inputs)).2 = [] := by
      rw [deploy]
      split <;> rfl
    rw [hlog]
    exact .quiet hpath
  | reconcileNow inputs => exact .quiet .refl
  | reset inputs => exact .quiet (afterReset_path inputs)
  | scenario step inputs => exact scenario_callPath hentry step d inputs
  | journey reset first second third =>
    rw [deploy, runFullFiveMinuteJourney]
    cases hreset : resetDemoDataset env settings reset with
    | error refusal => exact .quiet .refl
    | ok d' => exact .after (reset_path hreset).1 (runActs_path hentry first second third)
  | benchmark payload scenarios reset =>
    rw [deploy, executeAdversarialBenchmark]
    dsimp only
    split
    · exact .quiet .refl
    · split
      · exact .quiet (runBenchmark_path hentry)
      · split
        · exact .quiet .refl
        · rename_i d' hreset
          split
          · exact .quiet (reset_path hreset).1
          · exact .quiet ((reset_path hreset).1.trans (runBenchmark_path hentry))
  | startup autoSeedDemo reset =>
    rw [deploy, bootstrap]
    split
    · exact .quiet (afterReset_path reset)
    · exact .quiet .refl

end Calls

/-! ### A small deployment -/

namespace Sample

open ControlPlane.Sample

def noTexts : LedgerTexts := ⟨fun _ => "", fun _ => ""⟩

def host : Host := ⟨plainConversions, noTexts⟩

/-- The small world with nothing else stored. -/
def start : Dataset := ⟨⟨store, []⟩, [], .empty, []⟩

end Sample

end MandatePlane.Deployment

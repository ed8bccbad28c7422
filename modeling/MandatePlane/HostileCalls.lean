import MandatePlane.EvaluationHarness

/-!
# Calls outside the terms of a mandate

A request above the ceiling of its mandate, or for an operation that the mandate does not list, is
denied.  A list of scenarios whose calls ask for nothing else therefore moves no money: it leaves
rejected operations, and everything it reports is blocked.

An operation that is already stored under the key of a call is answered as it is, so that the keys
of the calls have to be fresh.
-/

namespace MandatePlane.HostileCalls

open DomainModel KeyedTable LedgerView HostEnvironment HandlerPostings PolicyEngine OperationRoutes
open ControlPlane McpGateway EntryPoints TransactionLookup AgentRunner EvaluationHarness

/-! ### Outside the terms -/

/-- More than the mandate allows in one operation, or an operation it does not list. -/
def Outside (m : Mandate) (payload : OperationCreate) : Prop :=
  m.maxAmountPerOp < payload.amount ∨
    m.allowedOperations ≠ [] ∧ payload.operationType.value ∉ m.allowedOperations

/-- The observations of a denied request. -/
def DenialEvents (events : List Event) : Prop :=
  ∃ op, events = [.opened op, .posted op .policyRejected 0 0]

/-- **Denied**: one rejected operation more, and nothing else that matters to a mandate. -/
structure Denied (payload : OperationCreate) (s : Store) (done : Committed FinancialOperation) :
    Prop where
  status : done.value.status = .policyRejected
  key : done.value.idempotencyKey = payload.idempotencyKey
  rows : done.store.operations.rows = s.operations.rows ++ [done.value]
  details : ∃ result, done.value.policyEvaluationDetails = some result ∧ result.decision = .deny
  events : DenialEvents done.events
  mandates : done.store.mandates = s.mandates
  transactions : done.store.transactions = s.transactions

section Requests

variable {env : Platform} {settings : Settings} {payload : OperationCreate}
  {headers : CallerAuth.CallerHeaders} {inputs : RequestInputs} {s : Store}
  {done : Committed FinancialOperation} {m : Mandate}

/-- A rejection that was evaluated is stored after the others. -/
theorem rows_of_rejected {operation : FinancialOperation} {result : PolicyEvaluationResult}
    {s₁ : Store} {message : String} (h : s.insertOperation operation = some s₁) :
    ((recordEvaluation payload operation result s₁).updateOperation operation.id
        (.moveToWith .policyRejected (some message))).operations.rows =
      s.operations.rows ++
        [(withDetails result operation).moveToWith .policyRejected (some message)] := by
  obtain ⟨-, operations, hinsert, rfl⟩ := Store.insertOperation_eq_some_iff.mp h
  have hinserted : operations.rows = s.operations.rows ++ [operation] :=
    (Table.insert_eq_some_iff.mp hinsert).2
  have hevaluated : (operations.modify operation.id (withDetails result)
      fun _ => key_kept rfl).rows = s.operations.rows ++ [withDetails result operation] :=
    Table.rows_modify_last hinserted
  show ((operations.modify operation.id (withDetails result) fun _ => key_kept rfl).modify
    operation.id (.moveToWith .policyRejected (some message)) fun _ => key_kept rfl).rows = _
  exact Table.rows_modify_last hevaluated

/-- **A request outside the terms** is answered with a stored operation or denied. -/
theorem request_outside
    (h : requestFinancialOperation env settings payload headers inputs s = .ok done)
    (hm : s.mandates.find? payload.mandateId = some m) (hout : Outside m payload) :
    (∃ op, s.operationByIdempotencyKey payload.idempotencyKey = .ok (some op) ∧
      done = ⟨op, s, []⟩) ∨ Denied payload s done := by
  rcases request_returned h with hstored | ⟨agent, mandate, s₁, result, hev, hdone⟩
  · exact .inl hstored
  · have hdeny : result.decision = .deny := by
      by_contra hnot
      have hwithin := withinMandate_of_evaluate hev.evaluated hnot
      have hmandate := hev.mandateFound
      rw [hm] at hmandate
      cases hmandate
      rcases hout with habove | ⟨hlisted, hunlisted⟩
      · have hle : payload.amount ≤ m.maxAmountPerOp := hwithin.perOperation
        omega
      · rcases hwithin.operationType with hnone | hmem
        · exact hlisted hnone
        · exact hunlisted hmem
    obtain ⟨-, -, -, -, -, htransactions, hmandates⟩ := ledger_insertOperation hev.inserted
    unfold actOnDecision at hdone
    rw [hdeny] at hdone
    subst hdone
    exact .inr ⟨rfl, rfl, rows_of_rejected hev.inserted, ⟨result, rfl, hdeny⟩, ⟨_, rfl⟩, hmandates,
      htransactions⟩

end Requests

/-! ### Keys -/

/-- The key of the operation that a call asks for, if it asks for one. -/
def requestedKey (host : Conversions) (agentId mandateId : String) (call : LlmToolCall) :
    Option String :=
  match agentTool host agentId mandateId call with
  | .ok (some payload) => some payload.idempotencyKey
  | _ => none

/-- No two of the calls share a key, and no operation has one of theirs. -/
structure FreshKeys (host : Conversions) (agentId mandateId : String) (calls : List LlmToolCall)
    (s : Store) : Prop where
  distinct : (calls.filterMap (requestedKey host agentId mandateId)).Nodup
  unused : ∀ op ∈ s.operations.rows,
    op.idempotencyKey ∉ calls.filterMap (requestedKey host agentId mandateId)

/-- The call asks for nothing within the terms of the mandate. -/
def AsksOutside (host : Conversions) (agentId : String) (m : Mandate) (call : LlmToolCall) : Prop :=
  ∀ payload, agentTool host agentId m.id call = .ok (some payload) → Outside m payload

/-- **Repelled**: between the two sessions, operations with these keys were requested and denied,
and nothing else was done. -/
structure Repelled (keys : List String) (x y : TurnSession) : Prop where
  mandates : y.view.mandates = x.view.mandates
  transactions : y.view.transactions = x.view.transactions
  rows : ∃ added, y.view.operations.rows = x.view.operations.rows ++ added ∧
    ∀ op ∈ added, op.status = .policyRejected ∧ op.idempotencyKey ∈ keys
  events : ∃ denials : List (List Event), (∀ events ∈ denials, DenialEvents events) ∧
    y.session.done ++ y.session.pending =
      x.session.done ++ x.session.pending ++ denials.flatten

section Sessions

variable {keys keys' : List String} {x y z : TurnSession}

theorem Repelled.refl (keys : List String) (x : TurnSession) : Repelled keys x x :=
  ⟨rfl, rfl, ⟨[], (List.append_nil _).symm, fun _ h => absurd h List.not_mem_nil⟩,
    ⟨[], fun _ h => absurd h List.not_mem_nil, (List.append_nil _).symm⟩⟩

theorem Repelled.trans (h : Repelled keys x y) (h' : Repelled keys' y z) :
    Repelled (keys ++ keys') x z := by
  obtain ⟨denials, hall, hevents⟩ := h.events
  obtain ⟨denials', hall', hevents'⟩ := h'.events
  obtain ⟨added, hrows, hadded⟩ := h.rows
  obtain ⟨added', hrows', hadded'⟩ := h'.rows
  refine ⟨h'.mandates.trans h.mandates, h'.transactions.trans h.transactions,
    ⟨added ++ added', ?_, ?_⟩, denials ++ denials', ?_, ?_⟩
  · rw [hrows', hrows, List.append_assoc]
  · intro op hop
    rcases List.mem_append.mp hop with hop | hop
    · exact (hadded op hop).imp_right fun hmem => List.mem_append_left _ hmem
    · exact (hadded' op hop).imp_right fun hmem => List.mem_append_right _ hmem
  · intro events hmem
    rcases List.mem_append.mp hmem with hmem | hmem
    · exact hall events hmem
    · exact hall' events hmem
  · rw [hevents', hevents, List.flatten_append, List.append_assoc _ denials.flatten]

/-- The trace of a call and the commit of its turn change no row. -/
theorem Repelled.traced (h : Repelled keys x y) (row : TraceRow) :
    Repelled keys x (y.addTrace row).commit := by
  obtain ⟨denials, hall, hevents⟩ := h.events
  refine ⟨h.mandates, h.transactions, h.rows, denials, hall, ?_⟩
  rw [← hevents]
  exact List.append_nil _

end Sessions

section Runs

variable {env : Platform} {settings : Settings} {host : Conversions} {texts : LedgerTexts}
  {agent : Agent} {m : Mandate} {x y : TurnSession}

/-- A row whose key is not stored is not found. -/
theorem operationByIdempotencyKey_of_unused {s : Store} {key : String}
    (h : ∀ op ∈ s.operations.rows, op.idempotencyKey ≠ key) :
    s.operationByIdempotencyKey key = .ok none := by
  refine scalarOneOrFail_eq_ok.mpr (List.filter_eq_nil_iff.mpr fun op hop => ?_)
  rw [decide_eq_true_eq]
  exact h op hop

/-- **One call outside the terms** records a denial or no decision at all. -/
theorem dispatch_outside {call : LlmToolCall} {d : EvaluationHarness.Dispatched}
    (h : dispatch env settings host texts agent m.id call x = .ok d)
    (hm : x.view.mandates.find? m.id = some m) (hout : AsksOutside host agent.id m call)
    (hfresh : ∀ key, requestedKey host agent.id m.id call = some key →
      ∀ op ∈ x.view.operations.rows, op.idempotencyKey ≠ key) :
    (∀ details, d.decisionData = some details → details.decision = .deny) ∧
      Repelled (requestedKey host agent.id m.id call).toList x d.session := by
  unfold dispatch at h
  split at h
  · cases hlookup : lookupTransaction env host.toRendering texts agent call.arguments x.view with
    | error refusal =>
      rw [hlookup] at h
      cases h
    | ok result =>
      rw [hlookup] at h
      cases h
      exact ⟨fun _ hdata => absurd hdata nofun, .refl _ x⟩
  · split at h
    · cases h
    · cases h
      exact ⟨fun _ hdata => absurd hdata nofun, .refl _ x⟩
    · rename_i payload htool
      have hkey : requestedKey host agent.id m.id call = some payload.idempotencyKey := by
        unfold requestedKey
        rw [htool]
      have hnone := operationByIdempotencyKey_of_unused (hfresh _ hkey)
      split at h
      · cases h
      · rename_i done hdone
        rw [hnone] at h
        cases h
        have hmandate : x.view.mandates.find? payload.mandateId = some m := by
          rw [(agentTool_ids htool).2]
          exact hm
        rcases request_outside hdone hmandate (hout payload htool) with ⟨op, hop, -⟩ | hdenied
        · rw [hnone] at hop
          cases hop
        · obtain ⟨result, hdetails, hdeny⟩ := hdenied.details
          refine ⟨fun details hdata => ?_, hdenied.mandates, hdenied.transactions,
            ⟨[done.value], hdenied.rows, ?_⟩, [done.events], ?_, ?_⟩
          · dsimp only at hdata
            rw [hdetails] at hdata
            cases hdata
            exact hdeny
          · intro op hop
            rw [List.mem_singleton.mp hop, hkey, hdenied.key]
            exact ⟨hdenied.status, List.mem_singleton_self _⟩
          · intro events hmem
            rw [List.mem_singleton.mp hmem]
            exact hdenied.events
          · show (x.session.done ++ (x.session.pending ++ done.events)) ++ [] = _
            rw [List.append_nil, List.flatten_singleton, List.append_assoc]

/-- **One scenario outside the terms** that should be denied is blocked. -/
theorem executeSingleScenario_outside {scenario : AdversarialScenario} {r : ScenarioResult}
    (h : executeSingleScenario env settings host texts agent m.id scenario x = .ok (y, r))
    (hm : x.view.mandates.find? m.id = some m) (hadversarial : scenario.isAdversarial = true)
    (hout : AsksOutside host agent.id m scenario.toolCall)
    (hfresh : ∀ key, requestedKey host agent.id m.id scenario.toolCall = some key →
      ∀ op ∈ x.view.operations.rows, op.idempotencyKey ≠ key) :
    r.blocked = true ∧ Repelled (requestedKey host agent.id m.id scenario.toolCall).toList x y := by
  rw [executeSingleScenario_eq] at h
  split at h
  · cases h
  · rename_i d hd
    cases h
    obtain ⟨hdecision, hrepelled⟩ := dispatch_outside hd hm hout hfresh
    refine ⟨?_, hrepelled.traced _⟩
    show isBlocked (actualDecision d.decisionData.toList scenario.isAdversarial) = true
    rw [actualDecision_toList, hadversarial]
    cases hdata : d.decisionData with
    | none => decide
    | some details =>
      dsimp only
      rw [hdecision details hdata]
      decide

/-- **Scenarios outside the terms** that should be denied are all blocked, and together they leave
nothing but denied operations. -/
theorem runScenarios_outside {scenarios : List AdversarialScenario} {results : List ScenarioResult}
    (h : runScenarios env settings host texts agent m.id scenarios x = .ok (y, results))
    (hm : x.view.mandates.find? m.id = some m)
    (hadversarial : ∀ scenario ∈ scenarios, scenario.isAdversarial = true)
    (hout : ∀ scenario ∈ scenarios, AsksOutside host agent.id m scenario.toolCall)
    (hfresh : FreshKeys host agent.id m.id (scenarios.map AdversarialScenario.toolCall) x.view) :
    (∀ r ∈ results, r.blocked = true) ∧
      Repelled ((scenarios.map AdversarialScenario.toolCall).filterMap
        (requestedKey host agent.id m.id)) x y := by
  induction scenarios generalizing x results with
  | nil =>
    cases h
    exact ⟨fun _ hr => absurd hr List.not_mem_nil, .refl _ _⟩
  | cons scenario scenarios ih =>
    unfold runScenarios at h
    split at h
    · cases h
    · rename_i z r hone
      obtain ⟨rest, hrest, heq⟩ := except_map_eq_ok h
      cases heq
      have hkeys : ((scenario :: scenarios).map AdversarialScenario.toolCall).filterMap
          (requestedKey host agent.id m.id) =
            (requestedKey host agent.id m.id scenario.toolCall).toList ++
              (scenarios.map AdversarialScenario.toolCall).filterMap
                (requestedKey host agent.id m.id) := by
        rw [List.map_cons, List.filterMap_cons]
        cases requestedKey host agent.id m.id scenario.toolCall with
        | none => rfl
        | some key => rfl
      obtain ⟨hdistinct, hunused⟩ := hfresh
      rw [hkeys] at hdistinct hunused
      obtain ⟨-, hdistinct, hdisjoint⟩ := List.nodup_append.mp hdistinct
      obtain ⟨hblocked, hrepelled⟩ := executeSingleScenario_outside hone hm
        (hadversarial scenario List.mem_cons_self) (hout scenario List.mem_cons_self)
        fun key hkey op hop heq => hunused op hop (List.mem_append_left _ (by
          rw [hkey, heq]
          exact List.mem_singleton_self _))
      obtain ⟨hblockeds, hrepelleds⟩ := ih hrest (by rw [hrepelled.mandates]; exact hm)
        (fun other hother => hadversarial other (List.mem_cons_of_mem _ hother))
        (fun other hother => hout other (List.mem_cons_of_mem _ hother))
        ⟨hdistinct, fun op hop hmem => by
          obtain ⟨added, hrows, hadded⟩ := hrepelled.rows
          rw [hrows] at hop
          rcases List.mem_append.mp hop with hold | hnew
          · exact hunused op hold (List.mem_append_right _ hmem)
          · exact hdisjoint _ (hadded op hnew).2 _ hmem rfl⟩
      rw [hkeys]
      refine ⟨fun other hother => ?_, hrepelled.trans hrepelleds⟩
      rcases List.mem_cons.mp hother with rfl | hother
      · exact hblocked
      · exact hblockeds other hother

end Runs

/-! ### Lists of scenarios -/

section Lists

variable {env : Platform} {settings : Settings} {host : Conversions} {texts : LedgerTexts}
  {agent : Agent} {mandateId : String} {x y : TurnSession}

/-- What is reported is reported of the scenarios that were run, under their ids. -/
theorem runScenarios_scenarios {scenarios : List AdversarialScenario}
    {results : List ScenarioResult}
    (h : runScenarios env settings host texts agent mandateId scenarios x = .ok (y, results)) :
    results.map ScenarioResult.scenario = scenarios ∧
      ∀ r ∈ results, r.detail.scenarioId = r.scenario.id := by
  induction scenarios generalizing x results with
  | nil =>
    cases h
    exact ⟨rfl, fun _ hr => absurd hr List.not_mem_nil⟩
  | cons scenario scenarios ih =>
    unfold runScenarios at h
    rw [executeSingleScenario_eq] at h
    split at h
    · cases h
    · rename_i z r hone
      split at hone
      · cases hone
      · cases hone
        obtain ⟨rest, hrest, heq⟩ := except_map_eq_ok h
        cases heq
        obtain ⟨hscenarios, hids⟩ := ih hrest
        refine ⟨by rw [List.map_cons, hscenarios]; rfl, fun r hr => ?_⟩
        rcases List.mem_cons.mp hr with rfl | hr
        · rfl
        · exact hids r hr

/-- Two lists of scenarios are run one after the other. -/
theorem runScenarios_append {first second : List AdversarialScenario}
    {results : List ScenarioResult}
    (h : runScenarios env settings host texts agent mandateId (first ++ second) x =
      .ok (y, results)) :
    ∃ z firsts seconds,
      runScenarios env settings host texts agent mandateId first x = .ok (z, firsts) ∧
        runScenarios env settings host texts agent mandateId second z = .ok (y, seconds) ∧
        results = firsts ++ seconds := by
  induction first generalizing x results with
  | nil => exact ⟨x, [], results, rfl, h, rfl⟩
  | cons scenario first ih =>
    rw [List.cons_append] at h
    unfold runScenarios at h
    split at h
    · cases h
    · rename_i z r hone
      obtain ⟨rest, hrest, heq⟩ := except_map_eq_ok h
      cases heq
      obtain ⟨z', firsts, seconds, hfirst, hsecond, hresults⟩ := ih hrest
      refine ⟨z', r :: firsts, seconds, ?_, hsecond, ?_⟩
      · unfold runScenarios
        rw [hone]
        dsimp only
        rw [hfirst]
        rfl
      · rw [hresults]
        rfl

end Lists

end MandatePlane.HostileCalls

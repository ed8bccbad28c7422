import MandatePlane.CredentialSoundness
import MandatePlane.EntryPoints
import MandatePlane.PolicyDryRun

/-!
# Who may enter in production

In production an operation row should appear for an agent only where a credential header
resolves to it.  The JSON-RPC gateway demands a credential.  `POST /operations` passes a
request that brings none, and so does a chat; a blank bearer token counts as none.
-/

namespace MandatePlane.AuthenticatedEntry

open DomainModel KeyedTable LabelledRun LedgerView HostEnvironment CallerAuth PolicyEngine
open CredentialSoundness OperationRoutes HandlerPostings ControlPlane AgentChat McpGateway
open EntryPoints PolicyDryRun

/-! ### Credentials -/

/-- **Presented**: the credential headers alone resolve to the agent. -/
def Presented (env : Platform) (settings : Settings) (s : Store) (headers : CallerHeaders)
    (agent : Agent) : Prop :=
  authenticateAgentCaller env settings s.agents { headers with xAgentId := none } true =
    .ok (some agent)

section Production

variable {env : Platform} {settings : Settings} {s : Store} {headers : CallerHeaders}
  {required : Bool} {agent : Agent}

/-- A blank credential presents nobody. -/
theorem not_presented (h : activeKey headers = none) :
    ¬ Presented env settings s headers agent := by
  intro hp
  have hnone : activeKey { headers with xAgentId := none } = none := h
  unfold Presented authenticateAgentCaller at hp
  rw [hnone] at hp
  cases hp

/-- **In production authentication goes by the credential alone.** -/
theorem presented_of_authenticated (hproduction : env.lower settings.environment = "production")
    (h : authenticateAgentCaller env settings s.agents headers required = .ok (some agent)) :
    Presented env settings s headers agent ∧ agent.status = .active ∧
      ∀ id, truthyHeader headers.xAgentId = some id → agent.id = id := by
  obtain ⟨key, hkey, hfirst, hactive, hnamed⟩ := (authenticated_iff hproduction).mp h
  -- the same key is presented once the id is dropped, and no id is left to contradict it
  have hpresented : Presented env settings s headers agent :=
    (authenticated_iff hproduction).mpr
      ⟨key, hkey, hfirst, hactive, fun id hid => absurd hid nofun⟩
  exact ⟨hpresented, hactive, hnamed⟩

/-- A credential presents some agent or is refused. -/
theorem authenticated_ne_none (hkey : activeKey headers ≠ none) :
    authenticateAgentCaller env settings s.agents headers required ≠ .ok none := by
  intro h
  unfold authenticateAgentCaller at h
  cases hactive : activeKey headers with
  | none => exact hkey hactive
  | some key =>
    rw [hactive] at h
    dsimp only at h
    split at h
    · cases h
    · split_ifs at h
      split at h
      · cases h
      · split_ifs at h
        cases h

/-- A credential header that is not blank is there. -/
theorem header_of_activeKey (h : activeKey headers ≠ none) :
    ((truthyHeader headers.xAgentKey).isSome || (truthyHeader headers.authorization).isSome) =
      true := by
  unfold activeKey at h
  cases hkey : truthyHeader headers.xAgentKey with
  | some key => rfl
  | none =>
    rw [hkey] at h
    cases hauth : truthyHeader headers.authorization with
    | some raw => rfl
    | none =>
      rw [hauth] at h
      exact absurd rfl h

theorem activeKey_of_no_header
    (h : ((truthyHeader headers.xAgentKey).isSome || (truthyHeader headers.authorization).isSome) =
      false) : activeKey headers = none := by
  by_contra hne
  rw [header_of_activeKey hne] at h
  cases h

/-- **A request without a credential passes in production.** -/
theorem authenticateRequest_of_blank (hproduction : env.lower settings.environment = "production")
    (payload : OperationCreate) (h : activeKey headers = none) (agents : Table Agent) :
    authenticateRequest env settings payload headers agents = .ok () := by
  unfold authenticateRequest
  split
  · have hnone (xAgentId : Option String) :
        authenticateAgentCaller env settings agents { headers with xAgentId } false = .ok none := by
      have hsame : activeKey { headers with xAgentId } = none := h
      unfold authenticateAgentCaller
      rw [hsame]
      dsimp only
      split
      · rw [if_neg (not_not.mpr hproduction)]
        rfl
      · rfl
    simp only [hnone]
    rfl
  · rfl

/-- A request with a credential passes for the agent it presents. -/
theorem presented_of_request (hproduction : env.lower settings.environment = "production")
    {payload : OperationCreate} (hkey : activeKey headers ≠ none)
    (h : authenticateRequest env settings payload headers s.agents = .ok ()) :
    ∃ agent, Presented env settings s headers agent ∧ agent.status = .active ∧
      payload.agentId = agent.id := by
  unfold authenticateRequest at h
  rw [if_pos (header_of_activeKey hkey)] at h
  obtain ⟨found, hfound, h⟩ := bind_eq_ok.mp h
  cases found with
  | none => exact absurd hfound (authenticated_ne_none hkey)
  | some agent =>
    obtain ⟨hpresented, hactive, -⟩ := presented_of_authenticated hproduction hfound
    exact ⟨agent, hpresented, hactive, (of_decide_eq_true (ensure_eq_ok.mp h)).symm⟩

end Production

/-! ### What a request leaves -/

/-- The pipeline inserts the request: its key is new, mandate and agent are stored, and no unique
index stands against the row. -/
structure Processable (env : Platform) (s : Store) (payload : OperationCreate)
    (inputs : RequestInputs) : Prop where
  fresh : s.operationByIdempotencyKey payload.idempotencyKey = .ok none
  mandate : ∃ mandate, s.mandates.find? payload.mandateId = some mandate
  agent : ∃ agent, s.agents.find? payload.agentId = some agent
  inserted : ∃ s₁, s.insertOperation (newOperation env payload inputs) = some s₁

/-- A row that was not there before. -/
def Added (s s' : Store) : Prop :=
  ∃ id op, s.operations.find? id = none ∧ s'.operations.find? id = some op

theorem Added.ne {s s' : Store} (h : Added s s') : s' ≠ s := by
  rintro rfl
  obtain ⟨id, op, hnone, hsome⟩ := h
  rw [hnone] at hsome
  cases hsome

section Requests

variable {env : Platform} {settings : Settings} {s : Store} {payload : OperationCreate}
  {headers : CallerHeaders} {inputs : RequestInputs}

theorem added_of_requested {events : List Event} {s' : Store} {agent : Agent} {mandate : Mandate}
    {result : PolicyEvaluationResult}
    (h : Requested env settings payload headers inputs s events s' agent mandate result) :
    Added s s' := by
  have hself := Table.find?_insert_self h.ordered
  obtain ⟨hnone, -⟩ := Table.insert_eq_some_iff.mp h.ordered
  rw [orders_find?] at hself hnone
  obtain ⟨op, hop, -⟩ := Option.map_eq_some_iff.mp hself
  exact ⟨_, op, Option.map_eq_none_iff.mp hnone, hop⟩

theorem processable_of_requested {events : List Event} {s' : Store} {agent : Agent}
    {mandate : Mandate} {result : PolicyEvaluationResult}
    (h : Requested env settings payload headers inputs s events s' agent mandate result) :
    Processable env s payload inputs :=
  ⟨h.fresh, ⟨mandate, h.mandateFound⟩, ⟨agent, h.agentFound⟩, h.inserted⟩

theorem actOnDecision_events (mandate : Mandate) (operation : FinancialOperation)
    (result : PolicyEvaluationResult) :
    (actOnDecision env payload inputs mandate operation result s).events ≠ [] := by
  unfold actOnDecision
  split
  · exact List.cons_ne_nil _ _
  · exact List.cons_ne_nil _ _
  · split <;> exact List.cons_ne_nil _ _

/-- **A processable request that is let in leaves a new row.** -/
theorem requested_of_processable
    (hauth : authenticateRequest env settings payload headers s.agents = .ok ())
    (h : Processable env s payload inputs) :
    ∃ c agent mandate result,
      requestFinancialOperation env settings payload headers inputs s = .ok c ∧
        Requested env settings payload headers inputs s c.events c.store agent mandate result := by
  obtain ⟨mandate, hmandate⟩ := h.mandate
  obtain ⟨agent, hagent⟩ := h.agent
  obtain ⟨s₁, hinserted⟩ := h.inserted
  obtain ⟨hierarchy, hrule, -⟩ := hierarchicalDelegationRule_none mandate
  obtain ⟨result, hresult, -⟩ := @evaluate_of_hierarchy env (requestEvaluation inputs) agent
    mandate (newOperation env payload inputs) hierarchy hrule
  have hev : Evaluated env settings payload headers inputs s agent mandate s₁ result :=
    ⟨hauth, h.fresh, hagent, hmandate, hinserted, hresult⟩
  rcases requestFinancialOperation_spec hev.returns with
    ⟨-, hnone⟩ | ⟨agent', mandate', result', hreq⟩
  · exact absurd hnone (actOnDecision_events _ _ _)
  · exact ⟨_, agent', mandate', result', hev.returns, hreq⟩

/-- What is not processable changes nothing. -/
theorem outcome_of_not_processable (h : ¬ Processable env s payload inputs) :
    (outcome s (requestFinancialOperation env settings payload headers inputs s)).1 = s := by
  rcases outcome_cases s (requestFinancialOperation env settings payload headers inputs s) with
    hrefused | ⟨c, hc, hdone⟩
  · rw [hrefused]
  · rcases requestFinancialOperation_spec hc with ⟨hs, -⟩ | ⟨agent, mandate, result, hreq⟩
    · rw [hdone]
      exact hs
    · exact absurd (processable_of_requested hreq) h

/-! ### Whose rows a run adds -/

/-- Every row that `s` lacks is the agent's. -/
def AddedFor (s : Store) (agentId : String) (s' : Store) : Prop :=
  ∀ op ∈ s'.operations.rows, s.operations.find? op.id = none → op.agentId = agentId

theorem AddedFor.refl (s : Store) (agentId : String) : AddedFor s agentId s := by
  intro op hop hnone
  have hfound : s.operations.find? op.id = some op := Table.find?_of_mem hop
  rw [hfound] at hnone
  cases hnone

/-- A row whose order was there belongs to the agent it belonged to. -/
theorem AddedFor.kept {agentId : String} {s₁ : Store} (h : AddedFor s agentId s₁)
    {op : FinancialOperation} (hm : orderOf op ∈ (orders s₁).rows)
    (hnone : s.operations.find? op.id = none) : op.agentId = agentId := by
  obtain ⟨op₁, hop₁, heq⟩ := List.mem_map.mp hm
  have hid := congrArg FinancialOperation.id heq
  have hagent := congrArg FinancialOperation.agentId heq
  dsimp only [LedgerView.orderOf] at hid hagent
  rw [← hagent]
  exact h op₁ hop₁ (hid ▸ hnone)

theorem AddedFor.step {agentId : String} {s₁ : Store} {c : Call} (h : AddedFor s agentId s₁)
    (hc : ActsFor agentId c) : AddedFor s agentId (answer env settings s₁ c).1 := by
  have hstep := answer_step env settings s₁ c
  cases c with
  | chat agentId' headers hex now =>
    generalize answer env settings s₁ (.chat agentId' headers hex now) = result at hstep
    obtain ⟨s₂, events⟩ := result
    cases hstep with
    | silent => exact h
    | reissued _ => exact h
  | control a =>
    cases a with
    | request payload headers inputs =>
      cases hstep with
      | control hstep =>
        intro op hop hnone
        rcases hstep.orders_cases with he | ⟨_, _, _, _, _, _, heq, hreq⟩
        · exact h.kept (he ▸ List.mem_map_of_mem hop) hnone
        · cases heq
          have hm : orderOf op ∈ (orders (answer env settings s₁ _).1).rows :=
            List.mem_map_of_mem hop
          rcases (Table.mem_insert hreq.ordered).mp hm with hold | hnew
          · exact h.kept hold hnone
          · have hagent := congrArg FinancialOperation.agentId hnew
            exact hagent.trans hc
    | _ => exact absurd hc not_false

theorem addedFor_of_reached {P : Call → Prop} {agentId : String} {s' : Store} {events : List Event}
    (h : Reached env settings P s s' events) (hP : ∀ c, P c → ActsFor agentId c) :
    AddedFor s agentId s' := by
  obtain ⟨calls, hall, rfl, -⟩ := h
  exact Machine.inv_run (M := interactivePlane env settings) (I := AddedFor s agentId)
    (P := fun _ c => ActsFor agentId c) (fun _ _ hI hc => hI.step hc) (AddedFor.refl s agentId)
    (Machine.along_of_forall fun c hc _ => hP c (hall c hc))

end Requests

/-! ### What a chat turn leaves -/

/-- How the tool calls of a turn go until the first commit: none of them commits, one of them
does, or one raises before. -/
inductive Fate where
  | idle | acts | raises
  deriving DecidableEq

/-- The fate of tool calls in a session that sees `s`. -/
def fate (env : Platform) (host : Conversions) (s : Store) (agentId mandateId : String) :
    List LlmToolCall → Fate
  | [] => .idle
  | call :: calls =>
    match agentTool host agentId mandateId call with
    | .error _ => .raises
    | .ok none => fate env host s agentId mandateId calls
    | .ok (some payload) =>
      match s.operationByIdempotencyKey payload.idempotencyKey with
      | .error _ => .raises
      | .ok (some _) => fate env host s agentId mandateId calls
      | .ok none => if (s.insertOperation (newOperation env payload call.inputs)).isSome then .acts
        else .raises

/-- The turn commits nothing new: the model fails, a tool call raises before anything is committed,
or nothing is to be committed, the issue of a mandate included. -/
def TurnIdle (env : Platform) (host : Conversions) (s : Store) (agentId mandateId : String)
    (issued : Bool) (turn : Completions) : Prop :=
  match turn.toolCalls with
  | none => True
  | some calls => fate env host s agentId mandateId calls = .raises ∨
      fate env host s agentId mandateId calls = .idle ∧
        (if calls = [] then issued = false else turn.replies = false)

section Turn

variable {env : Platform} {settings : Settings} {host : Conversions} {agentId mandateId : String}
  {x : Session}

theorem authenticateRequest_noHeaders (payload : OperationCreate) (agents : Table Agent) :
    authenticateRequest env settings payload noHeaders agents = .ok () := rfl

theorem requestInSession_stored {payload : OperationCreate} {inputs : RequestInputs}
    {op : FinancialOperation}
    (h : x.view.store.operationByIdempotencyKey payload.idempotencyKey = .ok (some op)) :
    requestInSession env settings payload inputs x = .ok x := by
  unfold requestInSession requestFinancialOperation
  rw [authenticateRequest_noHeaders, h]
  rfl

theorem requestInSession_lookup_fails {payload : OperationCreate} {inputs : RequestInputs}
    {refusal : Refusal}
    (h : x.view.store.operationByIdempotencyKey payload.idempotencyKey = .error refusal) :
    requestInSession env settings payload inputs x = .error refusal := by
  unfold requestInSession requestFinancialOperation
  rw [authenticateRequest_noHeaders, h]
  rfl

/-- A request that is not processable raises, unless its key is stored. -/
theorem requestInSession_insert_fails {payload : OperationCreate} {inputs : RequestInputs}
    (h : x.view.store.operationByIdempotencyKey payload.idempotencyKey = .ok none)
    (hinsert : x.view.store.insertOperation (newOperation env payload inputs) = none) :
    ∃ refusal, requestInSession env settings payload inputs x = .error refusal := by
  unfold requestInSession
  cases hrun : requestFinancialOperation env settings payload noHeaders inputs x.view.store with
  | error refusal => exact ⟨refusal, rfl⟩
  | ok c =>
    exfalso
    obtain ⟨-, -, hrun⟩ := bind_eq_ok.mp hrun
    obtain ⟨existing, hexisting, hrun⟩ := bind_eq_ok.mp hrun
    rw [h] at hexisting
    cases hexisting
    obtain ⟨mandate, -, hrun⟩ := bind_eq_ok.mp hrun
    obtain ⟨agent, -, hrun⟩ := bind_eq_ok.mp hrun
    obtain ⟨s₁, hinserted, -⟩ := bind_eq_ok.mp hrun
    rw [orRefuse_eq_ok, hinsert] at hinserted
    cases hinserted

theorem requestInSession_processable {payload : OperationCreate} {inputs : RequestInputs}
    (h : Processable env x.view.store payload inputs) :
    ∃ x', requestInSession env settings payload inputs x = .ok x' ∧
      Added x.view.store x'.committed.store ∧ Added x.view.store x'.view.store := by
  obtain ⟨c, agent, mandate, result, hrun, hreq⟩ :=
    requested_of_processable (authenticateRequest_noHeaders payload x.view.store.agents) h
  refine ⟨(x.write c.store c.events).commit, ?_, added_of_requested hreq, added_of_requested hreq⟩
  unfold requestInSession
  rw [hrun, h.fresh]

/-- Rows that were added stay added, in what is committed and in what is seen. -/
def Session.AddedTo (s : Store) (x : Session) : Prop :=
  Added s x.committed.store ∧ Added s x.view.store

theorem Session.AddedTo.request {s : Store} (h : Session.AddedTo s x) {payload : OperationCreate}
    {inputs : RequestInputs} {x' : Session}
    (hx : requestInSession env settings payload inputs x = .ok x') : Session.AddedTo s x' := by
  unfold requestInSession at hx
  cases hrun : requestFinancialOperation env settings payload noHeaders inputs x.view.store with
  | error refusal =>
    rw [hrun] at hx
    cases hx
  | ok c =>
    rw [hrun] at hx
    dsimp only at hx
    split at hx
    · cases hx
      have hkept : Added s c.store := by
        obtain ⟨id, op, hnone, hop⟩ := h.2
        have hstep := perform_step env settings x.view.store (.request payload noHeaders inputs)
        rw [perform, hrun] at hstep
        obtain ⟨op', hop', -⟩ := hstep.operation_kept hop
        exact ⟨id, op', hnone, hop'⟩
      exact ⟨hkept, hkept⟩
    · cases hx
      exact h

theorem runToolCalls_added {s : Store} (calls : List LlmToolCall) (h : Session.AddedTo s x) :
    ∀ x', (runToolCalls env settings host agentId mandateId calls x = .error x' ∨
      runToolCalls env settings host agentId mandateId calls x = .ok x') →
        Session.AddedTo s x' := by
  induction calls generalizing x with
  | nil =>
    rintro x' (hx | hx)
    · cases hx
    · cases hx
      exact h
  | cons call calls ih =>
    intro x' hx
    rw [runToolCalls] at hx
    split at hx
    · rcases hx with hx | hx
      · cases hx
        exact h
      · cases hx
    · exact ih (x := x.addTrace ⟨agentId, call.name⟩) ⟨h.1, h.2⟩ x' hx
    · split at hx
      · rcases hx with hx | hx
        · cases hx
          exact h
        · cases hx
      · rename_i next hnext
        obtain ⟨hcommitted, hview⟩ := h.request hnext
        exact ih (x := next.addTrace ⟨agentId, call.name⟩) ⟨hcommitted, hview⟩ x' hx

/-- What `n` tool calls of a fate leave of a session. -/
def LeftBy (x : Session) (n : ℕ) (result : Except Session Session) : Fate → Prop
  | .raises => ∃ x', result = .error x' ∧ x'.committed = x.committed
  | .idle => ∃ x', result = .ok x' ∧ x'.committed = x.committed ∧
      x'.view.store = x.view.store ∧ x'.view.traces.length = x.view.traces.length + n
  | .acts => ∀ x', (result = .error x' ∨ result = .ok x') → Session.AddedTo x.view.store x'

theorem LeftBy.of_addTrace {trace : ExecutionTrace} {n : ℕ} {result : Except Session Session}
    {f : Fate} (h : LeftBy (x.addTrace trace) n result f) : LeftBy x (n + 1) result f := by
  cases f with
  | raises => exact h
  | acts => exact h
  | idle =>
    obtain ⟨x', hx, hcommitted, hstore, htraces⟩ := h
    have hlength : (x.addTrace trace).view.traces.length = x.view.traces.length + 1 := by
      simp [Session.addTrace]
    exact ⟨x', hx, hcommitted, hstore, by omega⟩

/-- **The tool calls of a turn leave what their fate says.** -/
theorem runToolCalls_fate (calls : List LlmToolCall)
    (hmandate : ∃ mandate, x.view.store.mandates.find? mandateId = some mandate)
    (hagent : ∃ agent, x.view.store.agents.find? agentId = some agent) :
    LeftBy x calls.length (runToolCalls env settings host agentId mandateId calls x)
      (fate env host x.view.store agentId mandateId calls) := by
  induction calls generalizing x with
  | nil => exact ⟨x, rfl, rfl, rfl, rfl⟩
  | cons call calls ih =>
    have hnext := (ih (x := x.addTrace ⟨agentId, call.name⟩) hmandate hagent).of_addTrace
    rw [fate, runToolCalls]
    cases htool : agentTool host agentId mandateId call with
    | error refusal => exact ⟨x, rfl, rfl⟩
    | ok requested =>
      cases requested with
      | none => exact hnext
      | some payload =>
        dsimp only
        cases hkey : x.view.store.operationByIdempotencyKey payload.idempotencyKey with
        | error refusal =>
          rw [requestInSession_lookup_fails hkey]
          exact ⟨x, rfl, rfl⟩
        | ok existing =>
          cases existing with
          | some op =>
            rw [requestInSession_stored hkey]
            exact hnext
          | none =>
            dsimp only
            cases hinsert : x.view.store.insertOperation (newOperation env payload call.inputs) with
            | none =>
              obtain ⟨refusal, hrefused⟩ := @requestInSession_insert_fails env settings x payload
                call.inputs hkey hinsert
              rw [hrefused]
              exact ⟨x, rfl, rfl⟩
            | some s₁ =>
              obtain ⟨hagentId, hmandateId⟩ := agentTool_ids htool
              obtain ⟨x₁, hx₁, hadded⟩ := @requestInSession_processable env settings x payload
                call.inputs ⟨hkey, hmandateId ▸ hmandate, hagentId ▸ hagent, s₁, hinsert⟩
              rw [hx₁]
              exact runToolCalls_added (x := x₁.addTrace _) calls ⟨hadded.1, hadded.2⟩

/-- **A turn leaves the database as it was exactly when it is idle.** -/
theorem executeTurn_unchanged_iff {turn : Completions} {issued : Bool}
    (hmandate : ∃ mandate, x.view.store.mandates.find? mandateId = some mandate)
    (hagent : ∃ agent, x.view.store.agents.find? agentId = some agent)
    (hoperations : x.view.store.operations = x.committed.store.operations)
    (htraces : x.view.traces = x.committed.traces)
    (hissued : x.view = x.committed ↔ issued = false) :
    (executeTurn env settings host agentId mandateId turn x).1 = x.committed ↔
      TurnIdle env host x.view.store agentId mandateId issued turn := by
  have hne {s' : Store} (hadded : Added x.view.store s') : s' ≠ x.committed.store := by
    rintro rfl
    obtain ⟨id, op, hnone, hsome⟩ := hadded
    rw [hoperations, hsome] at hnone
    cases hnone
  unfold executeTurn TurnIdle
  cases hcalls : turn.toolCalls with
  | none => exact iff_of_true rfl trivial
  | some calls =>
    have hrun := @runToolCalls_fate env settings host agentId mandateId x calls hmandate hagent
    dsimp only
    cases hfate : fate env host x.view.store agentId mandateId calls with
    | raises =>
      rw [hfate] at hrun
      obtain ⟨x', hx, hcommitted⟩ := hrun
      rw [hx]
      exact iff_of_true hcommitted (.inl rfl)
    | idle =>
      rw [hfate] at hrun
      obtain ⟨x', hx, hcommitted, hstore, hlength⟩ := hrun
      rw [hx]
      simp only [reduceCtorEq, true_and, false_or]
      by_cases hnone : calls = []
      · subst hnone
        cases hx
        simp only [ne_eq, not_true_eq_false, false_and, if_false, if_true]
        exact hissued
      · simp only [ne_eq, hnone, not_false_eq_true, true_and, if_false]
        by_cases hreplies : turn.replies = false
        · rw [if_pos hreplies]
          exact iff_of_true hcommitted hreplies
        · rw [if_neg hreplies]
          refine iff_of_false (fun heq => ?_) hreplies
          -- the traces of the tool calls are committed
          have hsame : x'.view.traces.length = x.view.traces.length := by
            rw [htraces]
            exact congrArg (fun d : Database => d.traces.length) heq
          have hpos := List.length_pos_of_ne_nil hnone
          omega
    | acts =>
      rw [hfate] at hrun
      simp only [reduceCtorEq, false_and, or_self, iff_false]
      intro heq
      cases hx : runToolCalls env settings host agentId mandateId calls x with
      | error x' =>
        rw [hx] at heq
        exact hne (hrun x' (.inl hx)).1 (congrArg Database.store heq)
      | ok x' =>
        obtain ⟨hcommitted, hview⟩ := hrun x' (.inr hx)
        rw [hx] at heq
        dsimp only at heq
        split at heq
        · exact hne hcommitted (congrArg Database.store heq)
        · exact hne hview (congrArg Database.store heq)

end Turn

/-! ### Authenticated entry -/

/-- The headers an entry brings. -/
def Entry.headers : Entry → CallerHeaders
  | .operations _ headers _ => headers
  | .mcp _ headers _ => headers
  | .chat _ headers _ _ _ => headers

/-- The agent an entry is for; a call of the gateway is for whoever makes it. -/
def Entry.Concerns : Entry → Agent → Prop
  | .operations payload _ _, agent => payload.agentId = agent.id
  | .mcp _ _ _, _ => True
  | .chat agentId _ _ _ _, agent => agentId.text = agent.id

/-- **Authenticated entry**: the entry changes nothing, or its credential headers resolve to the
ACTIVE agent it is for, and every operation row it adds is that agent's. -/
def EntersAuthenticated (env : Platform) (settings : Settings) (host : Conversions) (d : Database)
    (e : Entry) : Prop :=
  (enter env settings host d e).1 = d ∨ ∃ agent,
    Presented env settings d.store (Entry.headers e) agent ∧ agent.status = .active ∧
      Entry.Concerns e agent ∧ AddedFor d.store agent.id (enter env settings host d e).1.store

def presentsHeader (headers : CallerHeaders) : Bool :=
  (truthyHeader headers.xAgentKey).isSome || (truthyHeader headers.authorization).isSome

/-- A chat without a credential that changes nothing: there is no such agent, its mandate cannot be
issued, or the turn is idle. -/
def IdleChat (env : Platform) (host : Conversions) (s : Store) (agentId hex : String)
    (now : DateTime) (turn : Completions) : Prop :=
  match s.agents.find? agentId with
  | none => True
  | some agent =>
    match activeMandate agent s with
    | some mandate => TurnIdle env host s agent.id mandate.id false turn
    | none =>
      let mandate := issuedByChat env agent hex now s
      match s.mandates.insert mandate with
      | none => True
      | some mandates => TurnIdle env host { s with mandates } agent.id mandate.id true turn

/-- **The guard**: a request brings a credential that is not blank or is not processable; a chat
brings a credential header or is idle; the gateway asks for no more. -/
def Guarded (env : Platform) (host : Conversions) (s : Store) : Entry → Prop
  | .operations payload headers inputs =>
    activeKey headers ≠ none ∨ ¬ Processable env s payload inputs
  | .mcp _ _ _ => True
  | .chat agentId headers hex now turn =>
    presentsHeader headers = true ∨ IdleChat env host s agentId.text hex now turn

section Main

variable {env : Platform} {settings : Settings} {host : Conversions} {d : Database}

theorem enters_of_request (hproduction : env.lower settings.environment = "production")
    {payload : OperationCreate} {headers : CallerHeaders} {inputs : RequestInputs} :
    EntersAuthenticated env settings host d (.operations payload headers inputs) ↔
      activeKey headers ≠ none ∨ ¬ Processable env d.store payload inputs := by
  by_cases hkey : activeKey headers = none
  · have hauth := authenticateRequest_of_blank hproduction payload hkey d.store.agents
    rw [or_iff_right (not_not.mpr hkey)]
    constructor
    · rintro (hsame | ⟨agent, hpresented, -⟩) hprocessable
      · obtain ⟨c, agent, mandate, result, hrun, hreq⟩ := requested_of_processable hauth hprocessable
        have hstore := congrArg Database.store hsame
        simp only [enter, withStore, hrun, outcome] at hstore
        exact (added_of_requested hreq).ne hstore
      · exact not_presented hkey hpresented
    · intro hnot
      left
      show ({ d with store := (outcome d.store _).1 } : Database) = d
      rw [outcome_of_not_processable hnot]
  · rw [or_iff_left_of_imp fun _ => hkey]
    refine iff_of_true ?_ hkey
    cases hauth : authenticateRequest env settings payload headers d.store.agents with
    | error refusal =>
      left
      simp only [enter, withStore, requestFinancialOperation, hauth]
      rfl
    | ok _ =>
      obtain ⟨agent, hpresented, hactive, hagent⟩ := presented_of_request hproduction hkey hauth
      refine .inr ⟨agent, hpresented, hactive, hagent, ?_⟩
      refine addedFor_of_reached (enter_reached host d (.operations payload headers inputs))
        fun c hc => ?_
      cases hc
      exact hagent

theorem enters_of_mcp (hproduction : env.lower settings.environment = "production")
    (request : McpJsonRpcRequest) (headers : CallerHeaders) (inputs : McpInputs) :
    EntersAuthenticated env settings host d (.mcp request headers inputs) := by
  have hreached := @enter_reached env settings host d
    (.mcp request headers inputs)
  cases hauth : authenticateAgentCaller env settings d.store.agents headers true with
  | error refusal =>
    left
    simp only [enter, withStore, handleMcpJsonrpcGateway, answerMcp, hauth]
    cases refusal <;> rfl
  | ok found =>
    cases found with
    | none =>
      left
      simp only [enter, withStore, handleMcpJsonrpcGateway, answerMcp, hauth]
      rfl
    | some agent =>
      obtain ⟨hpresented, hactive, -⟩ := presented_of_authenticated hproduction hauth
      refine .inr ⟨agent, hpresented, hactive, trivial, addedFor_of_reached hreached fun c hc => ?_⟩
      obtain ⟨agent', mandate, payload, hauth', -, hagent, -, rfl⟩ := hc
      rw [hauth] at hauth'
      cases hauth'
      exact hagent

theorem enters_of_presented_chat (hproduction : env.lower settings.environment = "production")
    {agentId : PathSegment} {headers : CallerHeaders} {hex : String} {now : DateTime}
    {turn : Completions} (h : presentsHeader headers = true) :
    EntersAuthenticated env settings host d (.chat agentId headers hex now turn) := by
  have hchat : chatAgent env settings agentId.text headers d.store.agents =
      authenticateAgentCaller env settings d.store.agents
        { headers with xAgentId := some agentId.text } true := if_pos h
  have hreached := @enter_reached env settings host d
    (.chat agentId headers hex now turn)
  have hrefused (hno : ∀ agent, chatAgent env settings agentId.text headers d.store.agents ≠
      .ok (some agent)) : (enter env settings host d (.chat agentId headers hex now turn)).1 = d := by
    simp only [enter, chat]
    cases hrun : chatWithAgent env settings agentId.text headers hex now d.store with
    | error refusal => rfl
    | ok opened =>
      obtain ⟨agent, hagent, -⟩ := chatWithAgent_agent hrun
      exact absurd hagent (hno agent)
  cases hauth : chatAgent env settings agentId.text headers d.store.agents with
  | error refusal =>
    exact .inl (hrefused fun agent => by rw [hauth]; exact fun h => by cases h)
  | ok found =>
    cases found with
    | none => exact .inl (hrefused fun agent => by rw [hauth]; exact fun h => by cases h)
    | some agent =>
      rw [hchat] at hauth
      obtain ⟨hpresented, hactive, hid⟩ := presented_of_authenticated hproduction hauth
      have htext : truthyHeader (some agentId.text) = some agentId.text :=
        if_neg (by rw [agentId.nonempty]; decide)
      refine .inr ⟨agent, hpresented, hactive, (hid _ htext).symm, addedFor_of_reached hreached fun c hc => ?_⟩
      rcases hc with rfl | ⟨agent', payload, inputs, hagent', hpayload, rfl⟩
      · trivial
      · rw [hchat, hauth] at hagent'
        cases hagent'
        exact hpayload

theorem chat_unchanged_iff {agentId : PathSegment} {headers : CallerHeaders} {hex : String}
    {now : DateTime} {turn : Completions} (h : presentsHeader headers = false) :
    (enter env settings host d (.chat agentId headers hex now turn)).1 = d ↔
      IdleChat env host d.store agentId.text hex now turn := by
  have hchat : chatAgent env settings agentId.text headers d.store.agents =
      .ok (d.store.agents.find? agentId.text) := if_neg (by rw [show (_ || _) = false from h]; decide)
  unfold IdleChat
  simp only [enter, chat]
  cases hagent : d.store.agents.find? agentId.text with
  | none =>
    rw [hagent] at hchat
    simp only [chatWithAgent, hchat]
    exact iff_of_true rfl trivial
  | some agent =>
    rw [hagent] at hchat
    have hid : agent.id = agentId.text := Table.key_of_find? hagent
    have hfound : ∃ a, d.store.agents.find? agent.id = some a := ⟨agent, hid ▸ hagent⟩
    dsimp only
    cases hactive : activeMandate agent d.store with
    | some mandate =>
      have hmem := mem_of_newest hactive
      rw [List.mem_filter, List.mem_filter] at hmem
      have hagentId : mandate.agentId = agent.id := of_decide_eq_true hmem.1.2
      rw [chatWithAgent_active hchat hactive]
      dsimp only
      rw [hagentId]
      exact executeTurn_unchanged_iff (x := openSession d ⟨mandate, d.store, []⟩)
        ⟨mandate, Table.find?_of_mem hmem.1.1⟩ hfound rfl rfl (iff_of_true rfl rfl)
    | none =>
      rw [chatWithAgent_reissues hchat hactive]
      dsimp only
      cases hinsert : d.store.mandates.insert (issuedByChat env agent hex now d.store) with
      | none => exact iff_of_true rfl trivial
      | some mandates =>
        have hself := Table.find?_insert_self hinsert
        refine executeTurn_unchanged_iff (x := openSession d ⟨_, { d.store with mandates }, _⟩)
          ⟨_, hself⟩ hfound rfl rfl (iff_of_false (fun heq => ?_) (by decide))
        have hsame : mandates = d.store.mandates :=
          congrArg (fun d : Database => d.store.mandates) heq
        rw [hsame, (Table.insert_eq_some_iff.mp hinsert).1] at hself
        cases hself

/-- **An entry is authenticated in production exactly when it is guarded.** -/
theorem authenticated_entry_iff (hproduction : env.lower settings.environment = "production")
    (e : Entry) : EntersAuthenticated env settings host d e ↔ Guarded env host d.store e := by
  cases e with
  | operations payload headers inputs => exact enters_of_request hproduction
  | mcp request headers inputs =>
    exact iff_of_true (enters_of_mcp hproduction request headers inputs) trivial
  | chat agentId headers hex now turn =>
    by_cases hheader : presentsHeader headers = true
    · exact iff_of_true (enters_of_presented_chat hproduction hheader) (.inl hheader)
    · have hblank : presentsHeader headers = false := Bool.eq_false_iff.mpr hheader
      show _ ↔ presentsHeader headers = true ∨ _
      rw [or_iff_right hheader, ← chat_unchanged_iff hblank]
      refine ⟨?_, .inl⟩
      rintro (hsame | ⟨agent, hpresented, -⟩)
      · exact hsame
      · exact absurd hpresented (not_presented (activeKey_of_no_header hblank))

end Main

/-! ### A request with a credential and one without -/

section Sample

open ControlPlane.Sample

def production : Settings := { settings with environment := "production" }

def orderInputs : RequestInputs := inputs "operation_A" "order_A" 600

theorem enters_with_key : EntersAuthenticated platform production plainConversions ⟨store, []⟩
    (.operations orderA ⟨some "key_1", none, none⟩ orderInputs) := by
  refine (authenticated_entry_iff rfl _).mpr (.inl ?_)
  have hkey : activeKey ⟨some "key_1", none, none⟩ = some "key_1" := by decide +kernel
  rw [hkey]
  exact Option.some_ne_none _

/-- In production an order without any header is inserted and dispatched. -/
theorem not_authenticated_without_header :
    ¬ EntersAuthenticated platform production plainConversions ⟨store, []⟩
      (.operations orderA ⟨none, none, none⟩ orderInputs) := by
  intro h
  have hprocessable : Processable platform store orderA orderInputs :=
    ⟨rfl, ⟨mandate, rfl⟩, ⟨agent, rfl⟩, ⟨_, rfl⟩⟩
  rcases (enters_of_request rfl).mp h with hkey | hnot
  · exact hkey rfl
  · exact hnot hprocessable

end Sample

end MandatePlane.AuthenticatedEntry

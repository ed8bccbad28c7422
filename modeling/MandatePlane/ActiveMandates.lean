import MandatePlane.EntryPoints
import MandatePlane.DispatchMediation

/-!
# Where ACTIVE mandates come from

Creating, delegating and activating aside, a call of the system takes ACTIVE mandates away
or leaves them, with one exception that is meant: a chat with an agent that has none issues
it a new one, so that the conversation can go on.  The JSON-RPC gateway refuses such an
agent.
-/

namespace MandatePlane.ActiveMandates

open DomainModel KeyedTable LabelledRun LedgerView HostEnvironment CallerAuth PolicyEngine
open OperationRoutes HandlerPostings MandateSteps ControlPlane AgentChat McpGateway EntryPoints

/-! ### ACTIVE mandates of an agent -/

/-- The mandate is stored, the agent's and ACTIVE. -/
def Active (s : Store) (agentId id : String) : Prop :=
  ∃ m, s.mandates.find? id = some m ∧ m.agentId = agentId ∧ m.status = .active

section Steps

variable {env : Platform} {settings : Settings} {s s' : Store} {agentId id : String}

theorem active_grants : Active s agentId id ↔
    ∃ m, (grants s).find? id = some m ∧ m.agentId = agentId ∧ m.status = .active := by
  rw [grants, Table.find?_mapRows]
  constructor
  · rintro ⟨m, hm, hagent, hstatus⟩
    exact ⟨grantOf m, by rw [hm]; rfl, hagent, hstatus⟩
  · rintro ⟨m, hm, hagent, hstatus⟩
    obtain ⟨m₀, hm₀, rfl⟩ := Option.map_eq_some_iff.mp hm
    exact ⟨m₀, hm₀, hagent, hstatus⟩

theorem active_of_grants (hg : grants s' = grants s) :
    Active s' agentId id ↔ Active s agentId id := by
  rw [active_grants, active_grants, hg]

theorem not_active_iff {agent : Agent} :
    activeMandate agent s = none ↔ ∀ id, ¬ Active s agent.id id := by
  unfold activeMandate newest
  rw [List.argmax_eq_none, List.filter_eq_nil_iff]
  constructor
  · rintro hnone id ⟨m, hm, hagent, hstatus⟩
    have hmem : m ∈ s.mandates.rows.filter fun m => m.agentId = agent.id :=
      List.mem_filter.mpr ⟨Table.mem_of_find? hm, decide_eq_true hagent⟩
    exact hnone m hmem (decide_eq_true hstatus)
  · intro hnone m hmem hstatus
    rw [List.mem_filter] at hmem
    exact hnone m.id ⟨m, Table.find?_of_mem hmem.1, of_decide_eq_true hmem.2,
      of_decide_eq_true hstatus⟩

/-- The calls that are made to bring a mandate to life. -/
def Grants : Action → Prop
  | .create _ _ _ => True
  | .delegate _ _ _ _ => True
  | .activate _ => True
  | _ => False

/-- What a cascade leaves ACTIVE was ACTIVE. -/
theorem active_of_cascade {rootId : String} {status : MandateStatus} {visited : List String}
    (h : Cascaded status rootId s s' visited) (hstatus : status ≠ .active)
    (hactive : Active s' agentId id) : Active s agentId id := by
  obtain ⟨m, hm, hagent, hm_status⟩ := hactive
  by_cases hvisited : id ∈ visited
  · exact absurd ((h.marked id hvisited m hm).symm.trans hm_status) hstatus
  · exact ⟨m, by rw [← h.untouched id hvisited]; exact hm, hagent, hm_status⟩

/-- **No other call brings a mandate to life.** -/
theorem active_of_step {a : Action} {events : List Event} (h : Step env settings s a events s')
    (hno : ¬ Grants a) (hactive : Active s' agentId id) : Active s agentId id := by
  cases h with
  | refused => exact hactive
  | requested h => exact (active_of_grants h.explained.grants).mp hactive
  | approved _ _ _ hexp => exact (active_of_grants hexp.grants).mp hactive
  | verified _ _ hgrants => exact (active_of_grants hgrants).mp hactive
  | delivered h => exact (active_of_grants h.explained.1.grants).mp hactive
  | swept hexp => exact (active_of_grants hexp.grants).mp hactive
  | created _ => exact absurd trivial hno
  | delegated _ => exact absurd trivial hno
  | suspended h => exact active_of_cascade h (by decide) hactive
  | revoked h => exact active_of_cascade h (by decide) hactive
  | activated _ _ => exact absurd trivial hno
  | agentChanged => exact hactive

/-- A request leaves the mandates' statuses alone. -/
theorem grants_of_request {payload : OperationCreate} {headers : CallerHeaders}
    {inputs : RequestInputs} {events : List Event}
    (h : Step env settings s (.request payload headers inputs) events s') :
    grants s' = grants s := by
  cases h with
  | refused => rfl
  | requested h => exact h.explained.grants

/-! ### The issue of a chat -/

theorem chatAgent_id {headers : CallerHeaders} {agents : Table Agent} {agent : Agent}
    (hnonempty : agentId.isEmpty = false)
    (h : chatAgent env settings agentId headers agents = .ok (some agent)) :
    agent.id = agentId := by
  have htext : truthyHeader (some agentId) = some agentId :=
    if_neg (by rw [hnonempty]; decide)
  unfold chatAgent at h
  split at h
  · unfold authenticateAgentCaller at h
    dsimp only at h
    rw [htext] at h
    split at h
    · split at h
      · cases h
      · split at h
        · cases h
        · dsimp only at h
          split at h
          · cases h
          · rename_i heq
            cases h
            exact not_not.mp heq
    · dsimp only at h
      split_ifs at h
      · split at h
        · cases h
        · rename_i found hfound
          split_ifs at h
          cases h
          exact Table.key_of_find? hfound
      · cases h
  · exact Table.key_of_find? (Except.ok.inj h)

/-- **A chat changes nothing, or issues the agent it is with, which has no ACTIVE mandate, one.** -/
theorem chat_cases (env : Platform) (settings : Settings) (s : Store) (agentId : String)
    (headers : CallerHeaders) (hex : String) (now : DateTime) :
    (answer env settings s (.chat agentId headers hex now)).1 = s ∨ ∃ agent mandates,
      chatAgent env settings agentId headers s.agents = .ok (some agent) ∧
        activeMandate agent s = none ∧
        s.mandates.insert (issuedByChat env agent hex now s) = some mandates ∧
        (answer env settings s (.chat agentId headers hex now)).1 = { s with mandates } := by
  rw [answer]
  rcases outcome_cases s (chatWithAgent env settings agentId headers hex now s) with
    hrefused | ⟨c, hc, hdone⟩
  · rw [hrefused]
    exact .inl rfl
  · rw [hdone]
    obtain ⟨agent, hagent, -⟩ := chatWithAgent_agent hc
    cases hactive : activeMandate agent s with
    | some mandate =>
      rw [chatWithAgent_active hagent hactive] at hc
      cases hc
      exact .inl rfl
    | none =>
      rw [chatWithAgent_reissues hagent hactive] at hc
      cases hinsert : s.mandates.insert (issuedByChat env agent hex now s) with
      | none =>
        rw [hinsert] at hc
        cases hc
      | some mandates =>
        rw [hinsert] at hc
        cases hc
        exact .inr ⟨agent, mandates, hagent, hactive, hinsert, rfl⟩

/-- The mandates are those of `s₀`, or those and one that was issued to the agent, which had no
ACTIVE one. -/
def IssuedAtMostOnce (s₀ : Store) (agentId : String) (s : Store) : Prop :=
  grants s = grants s₀ ∨ (∀ id, ¬ Active s₀ agentId id) ∧ ∃ m, m.agentId = agentId ∧
    m.parentMandateId = none ∧ m.status = .active ∧ (grants s₀).insert (grantOf m) = some (grants s)

/-- The calls a chat with the agent leads to. -/
def Chatting (agentId : String) : Call → Prop
  | .chat agentId' _ _ _ => agentId' = agentId
  | .control (.request payload _ _) => payload.agentId = agentId
  | _ => False

theorem IssuedAtMostOnce.step {s₀ : Store} (hnonempty : agentId.isEmpty = false)
    (h : IssuedAtMostOnce s₀ agentId s) {c : Call} (hc : Chatting agentId c) :
    IssuedAtMostOnce s₀ agentId (answer env settings s c).1 := by
  cases c with
  | control a =>
    cases a with
    | request payload headers inputs =>
      have hkept : grants (answer env settings s (.control (.request payload headers inputs))).1 =
          grants s := grants_of_request (perform_step env settings s _)
      unfold IssuedAtMostOnce
      rw [hkept]
      exact h
    | _ => exact absurd hc not_false
  | chat agentId' headers hex now =>
    obtain rfl : agentId' = agentId := hc
    rcases chat_cases env settings s agentId' headers hex now with
      hsame | ⟨agent, mandates, hagent, hnone, hinsert, hissued⟩
    · rw [hsame]
      exact h
    · have hid : agent.id = agentId' := chatAgent_id hnonempty hagent
      have hnone' : ∀ id, ¬ Active s agentId' id := hid ▸ not_active_iff.mp hnone
      rw [hissued]
      rcases h with hsame | ⟨-, m, hagentId, -, hstatus, hold⟩
      · refine .inr ⟨fun id hactive => hnone' id ((active_of_grants hsame).mpr hactive),
          issuedByChat env agent hex now s, hid, rfl, rfl, ?_⟩
        rw [← hsame]
        exact Table.mapRows_insert key_grantOf hinsert
      · have hactive : Active s agentId' m.id :=
          active_grants.mpr ⟨grantOf m, Table.find?_insert_self hold, hagentId, hstatus⟩
        exact absurd hactive (hnone' m.id)

end Steps

/-! ### Activities -/

/-- An agent's entry, or any other call of the control plane. -/
inductive Activity where
  | enter (e : Entry)
  | control (a : Action)

/-- The whole system as a machine. -/
def system (env : Platform) (settings : Settings) (host : Conversions) :
    Machine Database Activity Event where
  next d act := match act with
    | .enter e => (enter env settings host d e).1
    | .control a => { d with store := (perform env settings d.store a).1 }
  log d act := match act with
    | .enter e => (enter env settings host d e).2
    | .control a => (perform env settings d.store a).2

/-- A call that is made to bring a mandate to life. -/
def Activity.Grants : Activity → Prop
  | .enter _ => False
  | .control a => ActiveMandates.Grants a

/-- A chat with the agent. -/
def Activity.ChatsWith (agentId : String) : Activity → Prop
  | .enter (.chat agentId' _ _ _ _) => agentId'.text = agentId
  | _ => False

/-- The approval of a parked operation. -/
def Activity.Approves : Activity → Prop
  | .control (.approve _ _ _ _) => True
  | _ => False

/-- **Only shrinks**: every agent keeps some of its ACTIVE mandates and gets none, except that a
chat with an agent that has none may leave it exactly one, which is new and has no parent. -/
def OnlyShrinks (env : Platform) (settings : Settings) (host : Conversions) (d : Database)
    (act : Activity) : Prop :=
  ∀ agentId,
    (∀ id, Active ((system env settings host).next d act).store agentId id →
      Active d.store agentId id) ∨
    act.ChatsWith agentId ∧ (∀ id, ¬ Active d.store agentId id) ∧
      ∃ m : Mandate, d.store.mandates.find? m.id = none ∧ m.parentMandateId = none ∧
        ∀ id, Active ((system env settings host).next d act).store agentId id ↔ id = m.id

/-- **Powerless**: a tool call of the agent changes nothing, and apart from approvals no operation
of the agent under a mandate of its own reaches the gateway. -/
def Powerless (env : Platform) (settings : Settings) (host : Conversions) (agentId : String)
    (d : Database) (act : Activity) : Prop :=
  (∀ request headers inputs agent, act = .enter (.mcp request headers inputs) →
    authenticateAgentCaller env settings d.store.agents headers true = .ok (some agent) →
    agent.id = agentId → (system env settings host).next d act = d ∧
      (system env settings host).log d act = []) ∧
  (¬ act.Approves → ∀ op call, .gatewayCall op call ∈ (system env settings host).log d act →
    op.agentId = agentId → ∀ m, d.store.mandates.find? op.mandateId = some m →
      m.agentId ≠ agentId)

section Laws

variable {env : Platform} {settings : Settings} {host : Conversions} {d : Database}
  {agentId : String}

theorem active_insert {m : Mandate} {s s' : Store}
    (h : (grants s).insert (grantOf m) = some (grants s')) (hagent : m.agentId = agentId)
    (hstatus : m.status = .active) {id : String} :
    Active s' agentId id ↔ id = m.id ∨ Active s agentId id := by
  rw [active_grants, active_grants, Table.find?_insert h]
  have hkey : Keyed.key (grantOf m) = m.id := rfl
  rw [hkey]
  by_cases hid : id = m.id
  · rw [if_pos hid]
    exact iff_of_true ⟨grantOf m, rfl, hagent, hstatus⟩ (.inl hid)
  · rw [if_neg hid, or_iff_right hid]

/-- The issue to one agent is nothing to the others. -/
theorem active_insert_other {m : Mandate} {s s' : Store}
    (h : (grants s).insert (grantOf m) = some (grants s')) (hagent : m.agentId ≠ agentId)
    {id : String} (hactive : Active s' agentId id) : Active s agentId id := by
  rw [active_grants, Table.find?_insert h] at hactive
  obtain ⟨m', hm', hagent', hstatus⟩ := hactive
  split at hm'
  · cases hm'
    exact absurd hagent' hagent
  · exact active_grants.mpr ⟨m', hm', hagent', hstatus⟩

/-- The grants an entry leaves, by its kind. -/
theorem enter_grants (e : Entry) :
    grants (enter env settings host d e).1.store = grants d.store ∨
      ∃ agentId headers hex now turn, e = .chat agentId headers hex now turn ∧
        IssuedAtMostOnce d.store agentId.text (enter env settings host d e).1.store := by
  obtain ⟨calls, hall, hrun, -⟩ := @enter_reached env settings host d e
  have hrequests (h : ∀ c ∈ calls, ∃ payload headers inputs,
      c = .control (.request payload headers inputs)) :
      grants (enter env settings host d e).1.store = grants d.store := by
    rw [← hrun]
    refine Machine.inv_run (M := interactivePlane env settings)
      (I := fun s => grants s = grants d.store)
      (P := fun _ c => ∃ payload headers inputs, c = .control (.request payload headers inputs))
      (fun s c hI hc => ?_) rfl (Machine.along_of_forall fun c hc _ => h c hc)
    obtain ⟨payload, headers, inputs, rfl⟩ := hc
    exact (grants_of_request (perform_step env settings s _)).trans hI
  cases e with
  | operations payload headers inputs =>
    exact .inl (hrequests fun c hc => ⟨payload, headers, inputs, hall c hc⟩)
  | mcp request headers inputs =>
    refine .inl (hrequests fun c hc => ?_)
    obtain ⟨agent, mandate, payload, -, -, -, -, hcall⟩ := hall c hc
    exact ⟨payload, _, _, hcall⟩
  | chat agentId headers hex now turn =>
    refine .inr ⟨agentId, headers, hex, now, turn, rfl, ?_⟩
    rw [← hrun]
    refine Machine.inv_run (M := interactivePlane env settings)
      (I := IssuedAtMostOnce d.store agentId.text) (P := fun _ c => Chatting agentId.text c)
      (fun s c hI hc => hI.step agentId.nonempty hc) (.inl rfl)
      (Machine.along_of_forall fun c hc _ => ?_)
    rcases hall c hc with rfl | ⟨agent, payload, inputs, hagent, hpayload, rfl⟩
    · rfl
    · exact hpayload.trans (chatAgent_id agentId.nonempty hagent)

/-- **One activity only shrinks the sets of ACTIVE mandates.** -/
theorem onlyShrinks_of_not_grants {act : Activity} (h : ¬ act.Grants) :
    OnlyShrinks env settings host d act := by
  intro agentId
  cases act with
  | control a =>
    exact .inl fun id hactive => active_of_step (perform_step env settings d.store a) h hactive
  | enter e =>
    rcases @enter_grants env settings host d e with
      hkept | ⟨agentId', headers, hex, now, turn, rfl, hkept | ⟨hnone, m, hagent, hparent, hstatus,
        hinsert⟩⟩
    · exact .inl fun id => (active_of_grants hkept).mp
    · exact .inl fun id => (active_of_grants hkept).mp
    · by_cases hid : agentId'.text = agentId
      · subst hid
        refine .inr ⟨rfl, hnone, m, ?_, hparent, fun id => ?_⟩
        · have hfresh := (Table.insert_eq_some_iff.mp hinsert).1
          rw [grants, Table.find?_mapRows] at hfresh
          exact Option.map_eq_none_iff.mp hfresh
        · exact (active_insert hinsert hagent hstatus).trans (or_iff_left (hnone id))
      · exact .inl fun id => active_insert_other hinsert (hagent ▸ hid)

/-- A request that reaches the gateway is for its own agent, under a mandate that is ACTIVE. -/
theorem call_of_request {s s' : Store} {payload : OperationCreate} {headers : CallerHeaders}
    {inputs : RequestInputs} {events : List Event}
    (h : Step env settings s (.request payload headers inputs) events s')
    {op : FinancialOperation} {call : GatewayCall} (hm : .gatewayCall op call ∈ events) :
    op.agentId = payload.agentId ∧
      ∃ m, s.mandates.find? op.mandateId = some m ∧ m.status = .active := by
  cases h with
  | refused => exact absurd hm List.not_mem_nil
  | @requested _ _ _ _ _ agent mandate result hreq =>
    have hmandate := hreq.mandateFound
    cases hreq.decided with
    | rejected _ _ _ => simp at hm
    | parked _ _ _ => simp at hm
    | dispatched hdecision _ done hdone =>
      subst hdone
      simp only [List.mem_cons, reduceCtorEq, false_or] at hm
      obtain ⟨rfl, -⟩ := DispatchMediation.call_of_executeGatewayOperation hm
      have hwithin := withinMandate_of_evaluate hreq.evaluated (by rw [hdecision]; decide)
      exact ⟨rfl, mandate, hmandate, hwithin.mandateActive⟩

/-- The calls an entry makes are for the agent it leads to. -/
theorem calls_of_enter {e : Entry}
    (hleads : ∀ c, e.Leads env settings d.store c → ActsFor agentId c)
    {op : FinancialOperation} {call : GatewayCall}
    (hm : .gatewayCall op call ∈ (enter env settings host d e).2) : op.agentId = agentId := by
  obtain ⟨calls, hall, -, htrace⟩ := @enter_reached env settings host d e
  rw [← htrace] at hm
  refine Machine.trace_forall (M := interactivePlane env settings)
    (P := fun _ c => ActsFor agentId c) (I := fun _ => True)
    (Q := fun e => ∀ op call, e = .gatewayCall op call → op.agentId = agentId)
    (fun _ _ _ _ => trivial) (fun s c _ hc e he op call heq => ?_) trivial
    (Machine.along_of_forall fun c hc _ => hleads c (hall c hc)) _ hm op call rfl
  subst heq
  have hstep := answer_step env settings s c
  cases c with
  | chat agentId' headers hex now =>
    replace he : .gatewayCall op call ∈ (answer env settings s (.chat agentId' headers hex now)).2 :=
      he
    generalize answer env settings s (.chat agentId' headers hex now) = result at hstep he
    obtain ⟨s', events⟩ := result
    cases hstep with
    | silent => exact absurd he List.not_mem_nil
    | reissued _ => simp at he
  | control a =>
    cases a with
    | request payload headers inputs =>
      exact (call_of_request (perform_step env settings s _) he).1.trans hc
    | _ => exact absurd hc not_false

/-- **An agent without an ACTIVE mandate is powerless** in what is no chat with it. -/
theorem powerless_of_not_active {act : Activity} (hnone : ∀ id, ¬ Active d.store agentId id)
    (hchat : ¬ act.ChatsWith agentId) : Powerless env settings host agentId d act := by
  have hmandate : ∀ agent : Agent, agent.id = agentId → activeMandate agent d.store = none := by
    intro agent hid
    exact not_active_iff.mpr (hid ▸ hnone)
  have hforeign {payload : OperationCreate} {headers : CallerHeaders} {inputs : RequestInputs}
      {op : FinancialOperation} {call : GatewayCall}
      (hm : .gatewayCall op call ∈
        (perform env settings d.store (.request payload headers inputs)).2) :
      ∀ m, d.store.mandates.find? op.mandateId = some m → m.agentId ≠ agentId := by
    intro m hm' hagent
    obtain ⟨-, m₀, hm₀, hstatus⟩ := call_of_request (perform_step env settings d.store _) hm
    rw [hm'] at hm₀
    cases hm₀
    exact hnone op.mandateId ⟨m, hm', hagent, hstatus⟩
  have hrefused : ∀ request headers inputs agent, act = .enter (.mcp request headers inputs) →
      authenticateAgentCaller env settings d.store.agents headers true = .ok (some agent) →
      agent.id = agentId → (system env settings host).next d act = d ∧
        (system env settings host).log d act = [] := by
    rintro request headers inputs agent rfl hauth hid
    simp only [system, enter, withStore, handleMcpJsonrpcGateway, answerMcp, hauth,
      hmandate agent hid]
    exact ⟨rfl, rfl⟩
  refine ⟨hrefused, fun hno op call hm hagent => ?_⟩
  cases act with
  | control a =>
    have hstep := perform_step env settings d.store a
    rcases hstep.dispatch_cases with ⟨payload, headers, inputs, -, -, -, rfl, -⟩ |
      ⟨_, _, _, _, _, _, rfl, -⟩ | hsettling
    · exact hforeign hm
    · exact absurd trivial hno
    · exact absurd (hsettling _ hm) id
  | enter e =>
    cases e with
    | operations payload headers inputs => exact hforeign hm
    | mcp request headers inputs =>
      exfalso
      have hcalls (agent : Agent)
          (hauth : authenticateAgentCaller env settings d.store.agents headers true =
            .ok (some agent)) : op.agentId = agent.id := by
        refine @calls_of_enter env settings host d agent.id (.mcp request headers inputs)
          (fun c hc => ?_) op call hm
        obtain ⟨agent', mandate, payload, hauth', -, hpayload, -, rfl⟩ := hc
        rw [hauth] at hauth'
        cases hauth'
        exact hpayload
      cases hauth : authenticateAgentCaller env settings d.store.agents headers true with
      | error refusal =>
        simp only [system, enter, withStore, handleMcpJsonrpcGateway, answerMcp, hauth] at hm
        cases refusal <;> exact absurd hm List.not_mem_nil
      | ok found =>
        cases found with
        | none =>
          simp only [system, enter, withStore, handleMcpJsonrpcGateway, answerMcp, hauth] at hm
          exact absurd hm List.not_mem_nil
        | some agent =>
          have hid := (hcalls agent hauth).symm.trans hagent
          rw [(hrefused request headers inputs agent rfl hauth hid).2] at hm
          exact absurd hm List.not_mem_nil
    | chat agentId' headers hex now turn =>
      have hid : op.agentId = agentId'.text := by
        refine @calls_of_enter env settings host d agentId'.text
          (.chat agentId' headers hex now turn) (fun c hc => ?_) op call hm
        rcases hc with rfl | ⟨agent, payload, inputs, hagent', hpayload, rfl⟩
        · trivial
        · exact hpayload.trans (chatAgent_id agentId'.nonempty hagent')
      exact absurd (hid.symm.trans hagent) hchat

end Laws

/-! ### Every run -/

/-- **Only a chat gives back what was taken away.**  In a run without a call that is made to bring a
mandate to life, every agent's set of ACTIVE mandates only shrinks, chats with an agent that has
none aside; and while nobody chats with it, such an agent stays without one and is powerless. -/
theorem active_mandates_shrink (env : Platform) (settings : Settings) (host : Conversions)
    (d : Database) (acts : List Activity) (hno : ∀ act ∈ acts, ¬ act.Grants) :
    (system env settings host).Along (OnlyShrinks env settings host) d acts ∧
      ∀ agentId, (∀ id, ¬ Active d.store agentId id) →
        (∀ act ∈ acts, ¬ act.ChatsWith agentId) →
        (system env settings host).Throughout (fun d => ∀ id, ¬ Active d.store agentId id) d acts ∧
          (system env settings host).Along (Powerless env settings host agentId) d acts := by
  refine ⟨Machine.along_of_forall fun act hact _ => onlyShrinks_of_not_grants (hno act hact),
    fun agentId hnone hchat => ?_⟩
  have hboth : (system env settings host).Along
      (fun _ act => ¬ act.Grants ∧ ¬ act.ChatsWith agentId) d acts :=
    Machine.along_of_forall fun act hact _ => ⟨hno act hact, hchat act hact⟩
  have hstep : ∀ d act, (∀ id, ¬ Active d.store agentId id) →
      (¬ act.Grants ∧ ¬ act.ChatsWith agentId) →
      ∀ id, ¬ Active ((system env settings host).next d act).store agentId id := by
    intro d act hnone hact id hactive
    rcases @onlyShrinks_of_not_grants env settings host d act hact.1 agentId with
      hshrinks | ⟨hchats, -⟩
    · exact hnone id (hshrinks id hactive)
    · exact hact.2 hchats
  exact ⟨Machine.throughout_of_inv hstep hnone hboth,
    Machine.along_of_inv hstep (fun d act hnone hact => powerless_of_not_active hnone hact.2) hnone
      hboth⟩

/-! ### A chat after a revocation -/

section Sample

open ControlPlane.Sample JsonValue

def revoke : Activity := .control (.revoke "mnd_1" none)

/-- The model buys a desk mat. -/
def matOrder : LlmToolCall where
  name := "create_purchase_order"
  arguments := [("product_id", .str "prod_desk_mat_01"), ("quantity", .int 1)]
  hex := ⟨"00000000000000000000000000000000", McpGateway.Sample.zeros_length⟩
  inputs := inputs "operation_A" "order_A" 150000

def matChat : Activity :=
  .enter (.chat ⟨"agt_1", rfl⟩ ⟨none, none, none⟩ "0000abcd" ⟨5, some 0⟩ ⟨some [matOrder], true⟩)

/-- The agent requests an order under its revoked mandate. -/
def laterRequest : Activity :=
  .enter (.operations orderA ⟨none, none, none⟩ (inputs "operation_A" "order_A" 600))

/-- The agent calls a tool. -/
def laterCall : Activity :=
  .enter (.mcp ⟨.int 1, "tools/call", [("name", .str "create_order"),
      ("arguments", .obj [("amount", .int 600)])]⟩ ⟨some "hash_key_1", none, none⟩
    ⟨⟨"0123456789abcdef0123456789abcdef", McpGateway.Sample.digits_length⟩, .error "",
      inputs "op_1" "order_1" 600⟩)

def revoked : Database := (system platform settings plainConversions).next ⟨store, []⟩ revoke

theorem revoked_not_active : ∀ id, ¬ Active revoked.store "agt_1" id := by
  have hnone : activeMandate agent revoked.store = none :=
    Option.isNone_iff_eq_none.mp (by decide +kernel)
  exact not_active_iff.mp hnone

/-- A revocation only takes away, and afterwards the agent requests and calls in vain. -/
theorem shrinks_under_revocation :
    (system platform settings plainConversions).Along
        (OnlyShrinks platform settings plainConversions) ⟨store, []⟩ [revoke] ∧
      (system platform settings plainConversions).Throughout
        (fun d => ∀ id, ¬ Active d.store "agt_1" id) revoked [laterRequest, laterCall] ∧
      (system platform settings plainConversions).Along
        (Powerless platform settings plainConversions "agt_1") revoked
          [laterRequest, laterCall] := by
  refine ⟨(active_mandates_shrink platform settings plainConversions ⟨store, []⟩ [revoke]
    fun act hact => ?_).1, (active_mandates_shrink platform settings plainConversions revoked
      [laterRequest, laterCall] fun act hact => ?_).2 "agt_1" revoked_not_active fun act hact => ?_⟩
  · rw [List.mem_singleton.mp hact]
    exact not_false
  · simp only [List.mem_cons, List.not_mem_nil, or_false] at hact
    rcases hact with rfl | rfl <;> exact not_false
  · simp only [List.mem_cons, List.not_mem_nil, or_false] at hact
    rcases hact with rfl | rfl <;> exact not_false

/-- The agent's only mandate is revoked, and a chat gives it a new one and dispatches an order. -/
theorem reissued_after_revocation :
    (∀ act ∈ [revoke, matChat], ¬ act.Grants) ∧ (∀ id, ¬ Active revoked.store "agt_1" id) ∧
      (∃ id, Active ((system platform settings plainConversions).next revoked matChat).store
        "agt_1" id) ∧
      ∃ op call, .gatewayCall op call ∈
        (system platform settings plainConversions).log revoked matChat ∧
          op.agentId = "agt_1" := by
  refine ⟨fun act hact => ?_, revoked_not_active, ?_, ?_⟩
  · simp only [List.mem_cons, List.not_mem_nil, or_false] at hact
    rcases hact with rfl | rfl <;> exact not_false
  · by_contra hno
    have hsome : (activeMandate agent ((system platform settings plainConversions).next revoked
        matChat).store).isSome = true := by decide +kernel
    rw [not_active_iff.mpr fun id hactive => hno ⟨id, hactive⟩] at hsome
    cases hsome
  · have hcall : (firstCall ((system platform settings plainConversions).log revoked
        matChat)).map (fun found => found.1.agentId) = some "agt_1" := by decide +kernel
    obtain ⟨⟨op, call⟩, hfirst, hagent⟩ := Option.map_eq_some_iff.mp hcall
    exact ⟨op, call, mem_of_firstCall hfirst, hagent⟩

end Sample

end MandatePlane.ActiveMandates

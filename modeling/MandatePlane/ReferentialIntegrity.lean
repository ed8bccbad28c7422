import MandatePlane.DelegationBounds
import MandatePlane.ForeignKeys
import MandatePlane.RecordRetention
import MandatePlane.SideTables

/-!
# Nothing dangles

Eight columns of the schema are foreign keys.  The handlers look up what they refer to before they
write a row, delete nothing but with everything else, and never write such a column again, so that
every reference resolves in every state of the deployment.  The traces of a turn are written in
its session, next to what its tools commit, and refer to the agent the turn was opened for.
-/

namespace MandatePlane.ReferentialIntegrity

open DomainModel KeyedTable LabelledRun LedgerView HostEnvironment CallerAuth HandlerPostings
open OperationRoutes MandateRoutes MandateSteps ControlPlane AgentChat ActiveMandates EntryPoints
open TransactionLinks TransactionLookup AgentRunner EvaluationHarness AgentRoutes DemoRoutes
open EvaluationRoutes Deployment DeploymentInvariants RecordRetention DelegationBounds SideTables
open ForeignKeys

/-! ### The columns -/

/-- **Every reference of the control plane's tables resolves.** -/
structure References (s : Store) : Prop where
  owners : Refers s.agents (fun agent => some agent.ownerId) s.principals
  holders : Refers s.mandates (fun m => some m.agentId) s.agents
  grantors : Refers s.mandates (fun m => some m.grantedById) s.principals
  parents : Refers s.mandates Mandate.parentMandateId s.mandates
  requesters : Refers s.operations (fun op => some op.agentId) s.agents
  authorities : Refers s.operations (fun op => some op.mandateId) s.mandates
  receipts : ∀ link ∈ links s, Stored s.operations link.1

/-- A mandate that may be issued: what it refers to is stored. -/
structure Issuable (s : Store) (m : Mandate) : Prop where
  holder : Stored s.agents m.agentId
  grantor : Stored s.principals m.grantedById
  parent : ∀ id, m.parentMandateId = some id → Stored s.mandates id

/-- What is written to the columns that refer to other rows: an agent changes, a mandate is issued,
an operation is stored, a transaction of a stored operation is added, or nothing of that. -/
structure Written (s s' : Store) : Prop where
  principals : s'.principals = s.principals
  agents : s'.agents = s.agents ∨
    ∃ (id : String) (status : AgentStatus),
      s'.agents = s.agents.modify id fun a => { a with status }
  mandates : terms s' = terms s ∨
    ∃ m, (terms s).insert (termsOf m) = some (terms s') ∧ Issuable s m
  operations : orders s' = orders s ∨
    ∃ op, (orders s).insert (orderOf op) = some (orders s') ∧ Stored s.agents op.agentId ∧
      Stored s.mandates op.mandateId
  transactions : links s' = links s ∨
    ∃ id order, links s' = links s ++ [(id, order)] ∧ Stored s'.operations id

section Written

variable {s s' : Store}

theorem Written.agent_stored (h : Written s s') {id : String} (hid : Stored s.agents id) :
    Stored s'.agents id := by
  rcases h.agents with hsame | ⟨id', status, hmodify⟩
  · rwa [hsame]
  · rw [hmodify]
    exact stored_modify.mpr hid

theorem Written.mandate_stored (h : Written s s') {id : String} (hid : Stored s.mandates id) :
    Stored s'.mandates id := by
  have hterms : Stored (terms s) id := stored_mapRows.mpr hid
  have hterms' : Stored (terms s') id := by
    rcases h.mandates with hsame | ⟨m, hinsert, -⟩
    · rwa [hsame]
    · exact hterms.insert hinsert
  exact stored_mapRows.mp hterms'

theorem Written.operation_stored (h : Written s s') {id : String} (hid : Stored s.operations id) :
    Stored s'.operations id := by
  have horders : Stored (orders s) id := stored_mapRows.mpr hid
  have horders' : Stored (orders s') id := by
    rcases h.operations with hsame | ⟨op, hinsert, -⟩
    · rwa [hsame]
    · exact horders.insert hinsert
  exact stored_mapRows.mp horders'

/-- A column of the mandates that is fixed when they are issued. -/
theorem Written.mandates_refer (h : Written s s') {σ : Type} [Keyed σ String] {u : Table σ}
    {column : Mandate → Option String} (hfixed : ∀ m, column (termsOf m) = column m)
    (hold : Refers s.mandates column u)
    (hnew : ∀ m, Issuable s m → ∀ k, column m = some k → Stored u k) :
    Refers s'.mandates column u := by
  have hterms : Refers (terms s) column u := (refers_mapRows hfixed).mpr hold
  have hterms' : Refers (terms s') column u := by
    rcases h.mandates with hsame | ⟨m, hinsert, hissuable⟩
    · rwa [hsame]
    · exact hterms.insert hinsert fun k hk => hnew m hissuable k ((hfixed m).symm.trans hk)
  exact (refers_mapRows hfixed).mp hterms'

/-- A column of the operations that is fixed when they are requested. -/
theorem Written.operations_refer (h : Written s s') {σ : Type} [Keyed σ String] {u : Table σ}
    {column : FinancialOperation → String} (hfixed : ∀ op, column (orderOf op) = column op)
    (hold : Refers s.operations (fun op => some (column op)) u)
    (hnew : ∀ op, Stored s.agents op.agentId → Stored s.mandates op.mandateId →
      Stored u (column op)) :
    Refers s'.operations (fun op => some (column op)) u := by
  have hview (s : Store) : Refers (orders s) (fun op => some (column op)) u ↔
      Refers s.operations (fun op => some (column op)) u :=
    refers_mapRows fun op => congrArg some (hfixed op)
  have horders : Refers (orders s) (fun op => some (column op)) u := (hview s).mpr hold
  have horders' : Refers (orders s') (fun op => some (column op)) u := by
    rcases h.operations with hsame | ⟨op, hinsert, hagent, hmandate⟩
    · rwa [hsame]
    · refine horders.insert hinsert fun k hk => ?_
      cases hk
      rw [hfixed]
      exact hnew op hagent hmandate
  exact (hview s').mp horders'

/-- **What is written keeps every reference.** -/
theorem References.written (h : References s) (hw : Written s s') : References s' where
  owners := by
    rw [hw.principals]
    rcases hw.agents with hsame | ⟨id, status, hmodify⟩
    · rw [hsame]
      exact h.owners
    · rw [hmodify]
      refine (refers_mapRows fun agent => ?_).mpr h.owners
      split <;> rfl
  holders := (hw.mandates_refer (fun _ => rfl) h.holders fun _ hissuable k hk => by
    cases hk
    exact hissuable.holder).mono fun _ => hw.agent_stored
  grantors := by
    rw [hw.principals]
    exact hw.mandates_refer (fun _ => rfl) h.grantors fun _ hissuable k hk => by
      cases hk
      exact hissuable.grantor
  parents := (hw.mandates_refer (fun _ => rfl) h.parents fun _ hissuable => hissuable.parent).mono
    fun _ => hw.mandate_stored
  requesters := (hw.operations_refer (fun _ => rfl) h.requesters fun _ hagent _ => hagent).mono
    fun _ => hw.agent_stored
  authorities := (hw.operations_refer (fun _ => rfl) h.authorities fun _ _ hmandate =>
    hmandate).mono fun _ => hw.mandate_stored
  receipts := by
    have hold (link : String × Option String) (hlink : link ∈ links s) :=
      hw.operation_stored (h.receipts link hlink)
    rcases hw.transactions with hsame | ⟨id, order, hadded, hid⟩
    · rwa [hsame]
    · intro link hlink
      rw [hadded, List.mem_append, List.mem_singleton] at hlink
      rcases hlink with hlink | rfl
      · exact hold link hlink
      · exact hid

end Written

/-! ### What a call writes -/

section Calls

variable {env : Platform} {settings : Settings} {s s' : Store}

/-- A change that keeps what was issued and what was requested. -/
theorem Written.of_same (hprincipals : s'.principals = s.principals)
    (hagents : s'.agents = s.agents) (hterms : terms s' = terms s)
    (horders : orders s' = orders s) (hlinks : links s' = links s) : Written s s' :=
  ⟨hprincipals, .inl hagents, .inl hterms, .inl horders, .inl hlinks⟩

/-- The agent a mandate is issued to is stored. -/
theorem stored_of_resolveAgent {agents : Table Agent} {agentId : String} {agent : Agent}
    (h : resolveAgent env agents agentId = .ok (some agent)) : Stored agents agent.id := by
  unfold resolveAgent at h
  dsimp only at h
  split at h
  · rename_i found hfound
    cases h
    exact stored_of_mem (Table.mem_of_find? hfound)
  · have hmem : agent ∈ (some agent).toList := List.mem_singleton_self agent
    rw [← scalarOneOrFail_eq_ok.mp h] at hmem
    exact stored_of_mem (List.mem_of_mem_filter hmem)

theorem written_create {payload : MandateCreate} {id : String} {now : DateTime}
    {c : Committed Mandate} (h : createMandate env payload id now s = .ok c) :
    Written s c.store := by
  obtain ⟨found, hfound, h⟩ := bind_eq_ok.mp h
  obtain ⟨agent, hagent, h⟩ := bind_eq_ok.mp h
  obtain ⟨principal, hprincipal, h⟩ := bind_eq_ok.mp h
  obtain ⟨mandates, hinsert, h⟩ := bind_eq_ok.mp h
  rw [orRefuse_eq_ok] at hagent hprincipal hinsert
  cases h
  rw [hagent] at hfound
  exact ⟨rfl, .inl rfl, .inr ⟨_, Table.mapRows_insert key_termsOf hinsert,
    stored_of_resolveAgent hfound, ⟨principal, hprincipal⟩, fun _ he => by cases he⟩, .inl rfl,
    .inl rfl⟩

/-- The agent a chat is opened with is stored. -/
theorem find?_of_chatAgent {agentId : String} {headers : CallerHeaders} {agent : Agent}
    (h : chatAgent env settings agentId headers s.agents = .ok (some agent)) :
    s.agents.find? agent.id = some agent := by
  unfold chatAgent at h
  split at h
  · exact ToolReplies.find?_of_authenticated h
  · exact Table.find?_of_mem (Table.mem_of_find? (Except.ok.inj h))

theorem written_chat (h : References s) {agentId hex : String} {headers : CallerHeaders}
    {now : DateTime} {c : Committed Mandate}
    (hc : chatWithAgent env settings agentId headers hex now s = .ok c) : Written s c.store := by
  obtain ⟨found, hfound, hc⟩ := bind_eq_ok.mp hc
  obtain ⟨agent, hagent, hc⟩ := bind_eq_ok.mp hc
  rw [orRefuse_eq_ok] at hagent
  rw [hagent] at hfound
  have hstored := find?_of_chatAgent hfound
  dsimp only at hc
  split at hc
  · cases hc
    exact .of_same rfl rfl rfl rfl rfl
  · obtain ⟨mandates, hinsert, hc⟩ := bind_eq_ok.mp hc
    rw [orRefuse_eq_ok] at hinsert
    cases hc
    refine ⟨rfl, .inl rfl, .inr ⟨_, Table.mapRows_insert key_termsOf hinsert, ⟨agent, hstored⟩, ?_,
      fun _ he => by cases he⟩, .inl rfl, .inl rfl⟩
    exact h.owners agent (Table.mem_of_find? hstored) _ rfl

/-- Only the status of an agent is ever changed. -/
theorem agents_of_step {a : Action} {events : List Event} (h : Step env settings s a events s')
    (hno : ∀ agentId status reason, a ≠ .agentStatus agentId status reason) :
    s'.agents = s.agents := by
  cases h with
  | refused => rfl
  | requested h => exact h.explained.agents
  | approved _ _ _ hexplained => exact hexplained.agents
  | verified _ _ _ _ hagents => exact hagents
  | delivered h => exact h.explained.1.agents
  | swept hexplained => exact hexplained.agents
  | created _ => rfl
  | delegated _ => rfl
  | suspended h => exact h.only.agents
  | revoked h => exact h.only.agents
  | activated _ _ => rfl
  | agentChanged => exact absurd rfl (hno _ _ _)

/-- A step that issues nothing, or delegates. -/
theorem written_step (h : References s) {a : Action} {events : List Event}
    (hstep : Step env settings s a events s') (hprincipals : s'.principals = s.principals)
    (hcreate : ∀ payload id now, a ≠ .create payload id now)
    (hno : ∀ agentId status reason, a ≠ .agentStatus agentId status reason) : Written s s' := by
  refine ⟨hprincipals, .inl (agents_of_step hstep hno), ?_, ?_, ?_⟩
  · rcases hstep.allotments_cases with hsame | ⟨payload, id, now, agent, ha, -⟩ |
      ⟨parentId, payload, id, now, parent, currency, -, hdelegated⟩
    · exact .inl (terms_of_allotments hsame)
    · exact absurd ha (hcreate payload id now)
    · have hparent := Table.mem_of_find? hdelegated.found
      refine .inr ⟨_, (Delegated.terms_insert hdelegated).1, hdelegated.target,
        h.grantors parent hparent _ rfl, fun parentId he => ?_⟩
      cases he
      exact stored_of_mem hparent
  · rcases hstep.orders_cases with hsame | ⟨_, _, _, agent, mandate, _, -, hreq⟩
    · exact .inl hsame
    · exact .inr ⟨_, hreq.ordered, ⟨agent, hreq.agentFound⟩, ⟨mandate, hreq.mandateFound⟩⟩
  · rcases link_added hstep with hsame | ⟨id, order, hadded, -, hold, hfind, -⟩
    · exact .inl hsame
    · rw [holds_find?] at hfind
      obtain ⟨op, hop, -⟩ := Option.map_eq_some_iff.mp hfind
      exact .inr ⟨id, order, hadded, op, hop⟩

/-- A delivery writes no principal. -/
theorem webhook_principals {delivery : WebhookRoutes.WebhookDelivery} :
    (perform env settings s (.webhook delivery)).1.principals = s.principals := by
  rcases outcome_cases s (WebhookRoutes.handleRazorpayWebhook env settings delivery s) with
    h | ⟨c, hc, h⟩ <;> rw [perform, h]
  have hdelivered := handleRazorpayWebhook_spec hc
  generalize c.events = events, c.store = s' at hdelivered ⊢
  cases hdelivered with
  | recorded records => rfl
  | processed _ hdone records =>
    have hside := processed_side hdone
    exact congrArg Prod.fst hside

/-- **What every call writes.** -/
theorem written_answer (h : References s) (c : Call) : Written s (answer env settings s c).1 := by
  cases c with
  | chat agentId headers hex now =>
    rcases outcome_cases s (chatWithAgent env settings agentId headers hex now s) with
      hrefused | ⟨c, hc, hdone⟩
    · rw [answer, hrefused]
      exact .of_same rfl rfl rfl rfl rfl
    · rw [answer, hdone]
      exact written_chat h hc
  | control a =>
    have hstep := perform_step env settings s a
    have hside (hno : ∀ delivery, a ≠ .webhook delivery) :
        (perform env settings s a).1.principals = s.principals :=
      congrArg Prod.fst (perform_side env settings s a hno)
    cases a with
    | create payload id now =>
      rcases outcome_cases s (createMandate env payload id.text now s) with
        hrefused | ⟨c, hc, hdone⟩
      · rw [answer, perform, hrefused]
        exact .of_same rfl rfl rfl rfl rfl
      · rw [answer, perform, hdone]
        exact written_create hc
    | agentStatus agentId status reason =>
      rcases outcome_cases s (updateAgentStatus agentId status reason s) with
        hrefused | ⟨c, hc, hdone⟩
      · rw [answer, perform, hrefused]
        exact .of_same rfl rfl rfl rfl rfl
      · rw [answer, perform, hdone]
        obtain ⟨agent, -, hc⟩ := bind_eq_ok.mp hc
        cases hc
        exact ⟨rfl, .inr ⟨agentId, status, rfl⟩, .inl rfl, .inl rfl, .inl rfl⟩
    | webhook delivery =>
      exact written_step h hstep webhook_principals (fun _ _ _ he => by cases he)
        fun _ _ _ he => by cases he
    | _ =>
      exact written_step h hstep (hside fun _ he => by cases he) (fun _ _ _ he => by cases he)
        fun _ _ _ he => by cases he

end Calls

/-! ### The tables of the control plane -/

section Runs

variable {env : Platform} {settings : Settings} {host : Host} {P : Store → Call → Prop}
  {s s' : Store} {j : List JournalEntry}

theorem references_empty (hagents : s.agents.rows = []) (hmandates : s.mandates.rows = [])
    (hoperations : s.operations.rows = []) (htransactions : s.transactions = []) :
    References s where
  owners := refers_of_empty hagents
  holders := refers_of_empty hmandates
  grantors := refers_of_empty hmandates
  parents := refers_of_empty hmandates
  requesters := refers_of_empty hoperations
  authorities := refers_of_empty hoperations
  receipts := by
    rw [links, htransactions]
    exact fun _ h => absurd h List.not_mem_nil

theorem mem_seededMandates {inputs : ResetInputs} {m : Mandate}
    (h : m ∈ (seededStore inputs).mandates.rows) :
    m = parentMandate inputs.parent ∨ m = childMandate inputs.child ∨
      m = supportMandate inputs.support := by
  simpa [seededStore] using h

/-- The seeded rows refer to seeded rows. -/
theorem references_seeded (inputs : ResetInputs) : References (seededStore inputs) := by
  have hprincipal : Stored (seededStore inputs).principals principalId :=
    stored_of_mem (r := Principal.mk principalId true) List.mem_cons_self
  have hagent (agent : Agent) (h : agent ∈ [parentAgent, childAgent, supportAgent]) :
      Stored (seededStore inputs).agents agent.id := stored_of_mem (r := agent) h
  refine ⟨fun agent h id hid => ?_, fun m h id hid => ?_, fun m h id hid => ?_,
    fun m h id hid => ?_, refers_of_empty rfl, refers_of_empty rfl,
    fun link h => absurd h List.not_mem_nil⟩
  · have hseeded : agent = parentAgent ∨ agent = childAgent ∨ agent = supportAgent := by
      simpa [seededStore] using h
    rcases hseeded with rfl | rfl | rfl <;> cases hid <;> exact hprincipal
  · rcases mem_seededMandates h with rfl | rfl | rfl <;> cases hid
    · exact hagent parentAgent (by simp)
    · exact hagent childAgent (by simp)
    · exact hagent supportAgent (by simp)
  · rcases mem_seededMandates h with rfl | rfl | rfl <;> cases hid <;> exact hprincipal
  · rcases mem_seededMandates h with rfl | rfl | rfl <;> cases hid
    exact stored_of_mem (r := parentMandate inputs.parent) List.mem_cons_self

/-- A capture writes no such column, and adds no transaction. -/
theorem written_captured {eventData eventType : JsonValue.Json} {events : List Event}
    (h : Processed env eventData s eventType (s', events)) : Written s s' := by
  obtain ⟨hexplained, horders⟩ := h.explained
  exact .of_same (congrArg Prod.fst (processed_side h)) hexplained.agents
    (terms_of_allotments (allotments_of_grants hexplained.grants)) horders (processed_links h)

/-- The settlement of the third act does not either. -/
theorem written_converge (op : FinancialOperation) (s : Store) : Written s (converge op s) := by
  have hterms : terms (converge op s) = terms (s.updateOperation op.id
      (.moveTo .succeeded) (FinancialOperation.moveTo_key .succeeded)) :=
    terms_columns _ fun _ => rfl
  exact .of_same rfl rfl hterms (orders_converge op s) rfl

/-- **Every step keeps every reference.** -/
theorem references_step (h : References s) (hstep : TableStep env settings P s j s') :
    References s' := by
  cases hstep with
  | called c _ => exact h.written (written_answer h c)
  | captured hcaptured =>
    exact h.written (written_captured (processDomainWebhookEvent_spec hcaptured))
  | enrolled principals agents henrolled =>
    obtain ⟨agent, owner, hinsert, howner⟩ := henrolled.agent
    have hprincipals (id : String) (hid : Stored s.principals id) : Stored principals id := by
      obtain ⟨principal, hfound⟩ := hid
      exact ⟨principal, henrolled.kept id principal hfound⟩
    have hagents (id : String) (hid : Stored s.agents id) : Stored agents id := hid.insert hinsert
    exact {
      owners := (h.owners.mono hprincipals).insert hinsert fun k hk => by
        cases hk
        exact ⟨owner, howner⟩
      holders := h.holders.mono hagents
      grantors := h.grantors.mono hprincipals
      parents := h.parents
      requesters := h.requesters.mono hagents
      authorities := h.authorities
      receipts := h.receipts }
  | cleared inputs _ => exact references_seeded inputs

/-- An agent stays stored until a reset. -/
theorem agent_kept (h : References s) (hstep : TableStep env settings P s j s')
    (hquiet : .cleared ∉ j) {id : String} (hid : Stored s.agents id) : Stored s'.agents id := by
  cases hstep with
  | called c _ => exact (written_answer h c).agent_stored hid
  | captured hcaptured =>
    exact (written_captured (processDomainWebhookEvent_spec hcaptured)).agent_stored hid
  | enrolled principals agents henrolled =>
    obtain ⟨agent, owner, hinsert, -⟩ := henrolled.agent
    exact hid.insert hinsert
  | cleared inputs _ => exact absurd (List.mem_singleton_self _) hquiet

end Runs

/-! ### The traces -/

/-- **Every reference of the database resolves.** -/
structure Intact (d : Database) : Prop where
  references : References d.store
  traced : ∀ t ∈ d.traces, Stored d.store.agents t.agentId

section Intact

variable {env : Platform} {settings : Settings} {P : Store → Call → Prop} {d d' : Database}
  {j : List JournalEntry}

/-- What keeps the references and the agents, and adds no trace. -/
theorem Intact.of_kept (h : Intact d) (hreferences : References d'.store)
    (hagents : ∀ id, Stored d.store.agents id → Stored d'.store.agents id)
    (htraces : d'.traces = d.traces) : Intact d' := by
  refine ⟨hreferences, fun t ht => ?_⟩
  rw [htraces] at ht
  exact hagents _ (h.traced t ht)

/-- A trace of a stored agent. -/
theorem Intact.addTrace (h : Intact d) {t : ExecutionTrace} (ht : Stored d.store.agents t.agentId) :
    Intact { d with traces := d.traces ++ [t] } := by
  refine ⟨h.references, fun t' ht' => ?_⟩
  rcases List.mem_append.mp ht' with ht' | ht'
  · exact h.traced t' ht'
  · rw [List.mem_singleton.mp ht']
    exact ht

theorem path_kept {s s' : Store} (h : References s) (hpath : Path env settings P s j s')
    (hquiet : .cleared ∉ j) :
    References s' ∧ ∀ id, Stored s.agents id → Stored s'.agents id := by
  induction hpath with
  | refl => exact ⟨h, fun _ hid => hid⟩
  | step _ hstep ih =>
    rw [List.mem_append, not_or] at hquiet
    obtain ⟨hreferences, hagents⟩ := ih hquiet.1
    exact ⟨references_step hreferences hstep,
      fun id hid => agent_kept hreferences hstep hquiet.2 (hagents id hid)⟩

/-- **A call that adds no trace and does not reset.** -/
theorem Intact.of_callPath (h : Intact d) (hpath : CallPath env settings P d.store j d'.store)
    (hquiet : .cleared ∉ j) (htraces : d'.traces = d.traces) : Intact d' := by
  suffices hkept : References d'.store ∧
      ∀ id, Stored d.store.agents id → Stored d'.store.agents id from
    h.of_kept hkept.1 hkept.2 htraces
  generalize d'.store = s' at hpath ⊢
  cases hpath with
  | quiet hpath => exact path_kept h.references hpath hquiet
  | @converging _ s₁ op hpath hrow hchild =>
    rw [List.mem_append, not_or] at hquiet
    obtain ⟨hreferences, hagents⟩ := path_kept h.references hpath hquiet.1
    exact ⟨hreferences.written (written_converge op s₁),
      fun id hid => (written_converge op s₁).agent_stored (hagents id hid)⟩

end Intact

/-! ### The turns of an agent -/

/-- Every reference resolves, and the agent of the turn is stored. -/
structure Grounded (agentId : String) (d : Database) : Prop where
  intact : Intact d
  stored : Stored d.store.agents agentId

/-- What a session has committed and what it sees. -/
structure Attended (agentId : String) (x : Session) : Prop where
  committed : Grounded agentId x.committed
  view : Grounded agentId x.view

section Turns

variable {env : Platform} {settings : Settings} {agentId : String} {d : Database} {x : Session}

theorem Grounded.addTrace (h : Grounded agentId d) (toolName : String) :
    Grounded agentId { d with traces := d.traces ++ [⟨agentId, toolName⟩] } :=
  ⟨h.intact.addTrace h.stored, h.stored⟩

theorem Grounded.call (h : Grounded agentId d) (c : Call) :
    Grounded agentId { d with store := (answer env settings d.store c).1 } := by
  have hwritten := @written_answer env settings d.store h.intact.references c
  exact ⟨h.intact.of_kept (h.intact.references.written hwritten)
    (fun _ => hwritten.agent_stored) rfl, hwritten.agent_stored h.stored⟩

theorem Attended.commit (h : Attended agentId x) : Attended agentId x.commit := ⟨h.view, h.view⟩

theorem Attended.addTrace (h : Attended agentId x) (toolName : String) :
    Attended agentId (x.addTrace ⟨agentId, toolName⟩) := ⟨h.committed, h.view.addTrace toolName⟩

/-- A request leaves the session as it was, or commits. -/
theorem Attended.request (h : Attended agentId x) {payload : OperationCreate}
    {inputs : RequestInputs} {x' : Session}
    (hx : requestInSession env settings payload inputs x = .ok x') : Attended agentId x' := by
  unfold requestInSession at hx
  split at hx
  · cases hx
  · rename_i done hdone
    split at hx
    · cases hx
      have hview := @Grounded.call env settings agentId x.view h.view
        (.control (.request payload noHeaders inputs))
      rw [answer, perform, hdone] at hview
      exact Attended.commit ⟨h.committed, hview⟩
    · cases hx
      exact h

theorem attended_kept (agentId : String) :
    KeptByTurns env settings agentId (Attended agentId) where
  commit _ h := h.commit
  trace _ toolName h := h.addTrace toolName
  request _ _ _ _ h hx := h.request hx

theorem runToolCalls_attended {host : Conversions} {mandateId : String} (calls : List LlmToolCall)
    (h : Attended agentId x) :
    ∀ x', (runToolCalls env settings host agentId mandateId calls x = .error x' ∨
      runToolCalls env settings host agentId mandateId calls x = .ok x') → Attended agentId x' := by
  induction calls generalizing x with
  | nil =>
    rintro x' (hx | hx)
    · cases hx
    · cases hx
      exact h
  | cons call calls ih =>
    intro x' hx
    rw [runToolCalls] at hx
    split at hx
    · rcases hx with hx | hx
      · cases hx
        exact h
      · cases hx
    · exact ih (h.addTrace _) x' hx
    · split at hx
      · rcases hx with hx | hx
        · cases hx
          exact h
        · cases hx
      · rename_i next hnext
        exact ih ((h.request hnext).addTrace _) x' hx

/-- **What a turn leaves.** -/
theorem executeTurn_intact {host : Conversions} {mandateId : String} {turn : Completions}
    (h : Attended agentId x) :
    Intact (executeTurn env settings host agentId mandateId turn x).1 := by
  unfold EntryPoints.executeTurn
  split
  · exact h.committed.intact
  · rename_i calls _
    split
    · rename_i x' hx
      exact (runToolCalls_attended calls h x' (.inl hx)).committed.intact
    · rename_i x' hx
      have hattended := runToolCalls_attended calls h x' (.inr hx)
      split
      · exact hattended.committed.intact
      · exact hattended.commit.committed.intact

/-- **What a chat leaves.** -/
theorem chat_intact {host : Conversions} {headers : CallerHeaders} {hex : String} {now : DateTime}
    {turn : Completions} {name : String} (h : Intact d) :
    Intact (chat env settings host name headers hex now turn d).1 := by
  unfold chat
  split
  · exact h
  · rename_i opened hopened
    obtain ⟨agent, hagent, hid⟩ := chatWithAgent_agent hopened
    have hstored : Stored d.store.agents opened.value.agentId := by
      rw [hid]
      exact ⟨agent, find?_of_chatAgent hagent⟩
    have hground : Grounded opened.value.agentId d := ⟨h, hstored⟩
    have hview := @Grounded.call env settings opened.value.agentId d hground
      (.chat name headers hex now)
    rw [answer, hopened] at hview
    exact executeTurn_intact ⟨hground, hview⟩

/-! ### The benchmark -/

variable {texts : LedgerTexts} {agent : Agent}

/-- **What a benchmark leaves.** -/
theorem runBenchmark_intact {host : Conversions} {mandate : Mandate} {multiplier : ℕ}
    {scenarios : List AdversarialScenario} {d : Dataset} (h : Intact d.database)
    (hagent : Stored d.store.agents agent.id) :
    Intact (runBenchmark env settings host texts agent mandate multiplier scenarios
      d).dataset.database := by
  have hground : Grounded agent.id d.database := ⟨h, hagent⟩
  have hopened : Attended agent.id (openTurn d.database).session := ⟨hground, hground⟩
  obtain ⟨hfailed, hdone⟩ :=
    runScenarios_keeps (attended_kept agent.id) host texts mandate.id scenarios hopened
  unfold runBenchmark runEvaluation
  cases hrun : runScenarios env settings host texts agent mandate.id scenarios
      (openTurn d.database) with
  | error z => exact (hfailed z hrun).committed.intact
  | ok z => exact (hdone z hrun).committed.intact

end Turns

/-! ### Every run -/

section Runs

variable {env : Platform} {settings : Settings} {host : Host} {d d' : Dataset}

/-- A reset leaves no trace, and rows that refer to one another. -/
theorem reset_intact {inputs : ResetInputs}
    (h : resetDemoDataset env settings inputs = .ok d) : Intact d.database := by
  obtain ⟨_, -, h⟩ := bind_eq_ok.mp h
  cases h
  exact ⟨references_seeded inputs, fun t ht => absurd ht List.not_mem_nil⟩

theorem afterReset_intact (h : Intact d.database) (inputs : ResetInputs) :
    Intact (afterReset d (resetDemoDataset env settings inputs)).1.database := by
  cases hreset : resetDemoDataset env settings inputs with
  | error refusal => exact h
  | ok d' => exact reset_intact hreset

/-- An act adds no trace. -/
theorem scenario_traces (step : ℤ) (inputs : ScenarioInputs) :
    (runScriptedDemoScenario env settings step inputs d).dataset.database.traces =
      d.database.traces := by
  have hone : (actOne env settings inputs d).dataset.database.traces = d.database.traces := by
    unfold actOne
    split
    · rfl
    · split <;> rfl
  have htwo : (actTwo env settings inputs d).dataset.database.traces = d.database.traces := by
    unfold actTwo
    split <;> rfl
  have hthree : (actThree env settings inputs d).dataset.database.traces = d.database.traces := by
    unfold actThree
    split <;> rfl
  unfold runScriptedDemoScenario
  split
  · rfl
  · split
    · split
      · rfl
      · split
        · exact hone
        · split
          · exact htwo
          · exact hthree
    · rfl

theorem scenario_intact (h : Intact d.database) (step : ℤ) (inputs : ScenarioInputs) :
    Intact (runScriptedDemoScenario env settings step inputs d).dataset.database :=
  h.of_callPath (scenario_callPath (P := fun _ _ => True) (fun _ _ _ => trivial) step d inputs)
    (scenario_journal step inputs) (scenario_traces step inputs)

theorem runActs_intact (acts : List (ℤ × ScenarioInputs)) (h : Intact d.database) :
    Intact (runActs env settings acts d).1.database := by
  induction acts generalizing d with
  | nil => exact h
  | cons act acts ih =>
    obtain ⟨step, inputs⟩ := act
    have hact := @scenario_intact env settings d h step inputs
    rw [runActs]
    dsimp only
    split
    · exact hact
    · exact ih hact

/-- The agent a benchmark finds is stored. -/
theorem subject_stored {agentId : Option String} {s : Store} {subject : Subject} {agent : Agent}
    {mandate : Mandate} (h : benchmarkSubject agentId s = .ok subject)
    (hpair : subject.pair = some (agent, mandate)) : Stored s.agents agent.id := by
  have hagent : subject.agent = some agent := by
    unfold Subject.pair at hpair
    split at hpair
    · rename_i found _ hfound _
      cases hpair
      exact hfound
    · cases hpair
  unfold benchmarkSubject at h
  split at h
  · obtain ⟨found, hfound, rfl⟩ := except_map_eq_ok h
    rw [orRefuse_eq_ok] at hfound
    cases hagent
    exact stored_of_mem (Table.mem_of_find? hfound)
  · cases h
    exact stored_of_mem (List.mem_of_head? hagent)

theorem seeded_stored {s : Store} {agent : Agent} {mandate : Mandate}
    (h : seededSubject s = some (agent, mandate)) : Stored s.agents agent.id := by
  unfold seededSubject Subject.pair at h
  split at h
  · rename_i found _ hfound _
    cases h
    exact stored_of_mem (Table.mem_of_find? hfound)
  · cases h

theorem benchmark_intact (h : Intact d.database) {host : Conversions} {texts : LedgerTexts}
    {payload : RunBenchmarkRequest} {scenarios : List AdversarialScenario} {reset : ResetInputs} :
    Intact (executeAdversarialBenchmark env settings host texts payload scenarios reset
      d).dataset.database := by
  unfold executeAdversarialBenchmark
  split
  · exact h
  · rename_i subject hsubject
    split
    · rename_i agent mandate hpair
      exact runBenchmark_intact h (subject_stored hsubject hpair)
    · split
      · exact h
      · rename_i d' hreset
        split
        · exact reset_intact hreset
        · rename_i agent mandate hseeded
          exact runBenchmark_intact (reset_intact hreset) (seeded_stored hseeded)

/-- A registration adds no trace. -/
theorem register_traces {payload : AgentCreate} {inputs : RegistrationInputs} {agent : Agent}
    (h : registerAgent env payload inputs d = .ok (agent, d')) :
    d'.database.traces = d.database.traces := by
  obtain ⟨ownerId, d₁, agents, howner, -, -, rfl⟩ := registerAgent_cases h
  show d₁.database.traces = d.database.traces
  rcases resolveOwner_cases howner with ⟨owner, -, rfl⟩ | ⟨-, hinsert⟩
  · rfl
  · obtain ⟨-, principals, contacts, -, -, rfl⟩ := Dataset.insertPrincipal_eq_some hinsert
    rfl

/-- **Every call of the deployment keeps every reference.** -/
theorem intact_deploy (h : Intact d.database) (c : DeploymentCall) :
    Intact (deploy env settings host d c).1.database := by
  have hpath := deploy_anyPath env settings host d c
  have hquiet : .cleared ∈ (deploy env settings host d c).2 ↔ Clears env settings d c := cleared_iff
  cases c with
  | plane act =>
    have hsilent : JournalEntry.cleared ∉ (deploy env settings host d (.plane act)).2 :=
      hquiet.not.mpr not_false
    cases act with
    | control a => exact h.of_callPath hpath hsilent rfl
    | enter e =>
      cases e with
      | operations payload headers inputs => exact h.of_callPath hpath hsilent rfl
      | mcp request headers inputs => exact h.of_callPath hpath hsilent rfl
      | chat agentId headers hex now turn => exact chat_intact h
  | register payload inputs =>
    refine h.of_callPath hpath (hquiet.not.mpr not_false) ?_
    rw [deploy]
    split
    · rename_i agent d' hregister
      exact register_traces hregister
    · rfl
  | reconcileNow inputs => exact h.of_callPath hpath (hquiet.not.mpr not_false) rfl
  | reset inputs => exact afterReset_intact h inputs
  | scenario step inputs => exact scenario_intact h step inputs
  | journey reset first second third =>
    show Intact (runFullFiveMinuteJourney env settings reset first second third d).dataset.database
    unfold runFullFiveMinuteJourney
    split
    · exact h
    · rename_i d' hreset
      exact runActs_intact _ (reset_intact hreset)
  | benchmark payload scenarios reset => exact benchmark_intact h
  | startup autoSeedDemo reset =>
    show Intact (bootstrap env settings autoSeedDemo reset d).1.database
    unfold bootstrap
    split
    · exact afterReset_intact h reset
    · exact h

/-- **Nothing dangles.**  In every state of every run each of the eight columns refers to rows that
are stored: an agent's owner; a mandate's agent, grantor and parent; an operation's agent and
mandate; a transaction's operation; and a trace's agent. -/
theorem references_resolve (env : Platform) (settings : Settings) (host : Host) (d : Dataset)
    (h : Intact d.database) (calls : List DeploymentCall) :
    Intact ((deployment env settings host).run d calls).database :=
  Machine.inv_run (P := fun _ _ => True) (I := fun d : Dataset => Intact d.database)
    (fun _ c hI _ => intact_deploy hI c) h (Machine.along_of_forall fun _ _ _ => trivial)

end Runs

open ControlPlane.Sample Deployment.Sample in
/-- A startup that seeds an empty database, and a chat with the seeded parent. -/
theorem references_resolve_chat :
    Intact ((deployment platform settings host).run
      ⟨⟨⟨.empty, .empty, .empty, .empty, [], .empty, []⟩, []⟩, [], .empty, []⟩
      [.startup true ⟨⟨0, 0, 0⟩, ⟨0, 0, 0⟩, ⟨0, 0, 0⟩⟩,
        .plane (.enter (.chat ⟨parentAgentId, rfl⟩ noHeaders "00000000" ⟨0, some 0⟩
          ⟨some [EvaluationHarness.Sample.browsing], true⟩))]).database :=
  references_resolve platform settings host _
    ⟨references_empty rfl rfl rfl rfl, fun _ ht => absurd ht List.not_mem_nil⟩ _

end MandatePlane.ReferentialIntegrity

import MandatePlane.DelegationHierarchy

/-!
# What holds when the gateway is called

A call that changes something at the gateway is made by a request that the policy
engine has just allowed, or by the approval of an operation that it parked earlier.
The terms of a mandate never change, so what the engine checked against them still
holds at the approval; what it checked against the agent's and the mandate's status
and against the clock does not, since the approval does not ask again.

An operation that is rejected is past dispatch: no later step brings it back into a
status from which the gateway is called.
-/

namespace MandatePlane.DispatchMediation

open DomainModel KeyedTable LabelledRun LedgerView HostEnvironment HandlerPostings
open ControlPlane DelegationHierarchy OperationRoutes PolicyEngine RazorpayClient

/-! ### Terms -/

/-- The operation keeps the bounds its mandate was issued with. -/
def KeepsTerms (env : Platform) (issued : Table Mandate) (op : FinancialOperation) : Prop :=
  ∃ m, issued.find? op.mandateId = some m ∧ env.upper op.currency = env.upper m.currency ∧
    (m.allowedOperations = [] ∨ op.operationType.value ∈ m.allowedOperations) ∧
    op.amount ≤ m.maxAmountPerOp

/-- Only what was requested matters. -/
theorem keepsTerms_of_order {env : Platform} {issued : Table Mandate} {op op' : FinancialOperation}
    (h : orderOf op' = orderOf op) (hk : KeepsTerms env issued op) : KeepsTerms env issued op' := by
  have hmandate : op'.mandateId = op.mandateId := congrArg (·.mandateId) h
  have hcurrency : op'.currency = op.currency := congrArg (·.currency) h
  have htype : op'.operationType = op.operationType := congrArg (·.operationType) h
  have hamount : op'.amount = op.amount := congrArg (·.amount) h
  unfold KeepsTerms
  rw [hmandate, hcurrency, htype, hamount]
  exact hk

theorem keepsTerms_of_evaluate {env : Platform} {payload : OperationCreate} {inputs : RequestInputs}
    {agent : Agent} {mandate : Mandate} {result : PolicyEvaluationResult} {s : Store}
    (hmandate : s.mandates.find? payload.mandateId = some mandate)
    (he : evaluate env (requestEvaluation inputs) agent mandate (newOperation env payload inputs) =
      .ok result) (hd : result.decision ≠ .deny) :
    KeepsTerms env (terms s) (newOperation env payload inputs) := by
  have hwithin := withinMandate_of_evaluate he hd
  refine ⟨termsOf mandate, ?_, hwithin.currency, hwithin.operationType, hwithin.perOperation⟩
  rw [terms_find?, show s.mandates.find? (newOperation env payload inputs).mandateId = some mandate
    from hmandate]
  rfl

/-- Every operation that waits for approval keeps its mandate's terms. -/
def ParkedKeepTerms (env : Platform) (s : Store) : Prop :=
  ∀ op ∈ s.operations.rows, op.status = .requiresApproval → KeepsTerms env (terms s) op

variable {env : Platform} {settings : Settings} {s s' : Store} {a : Action} {events : List Event}

theorem Step.keepsTerms (h : Step env settings s a events s') {op : FinancialOperation}
    (hk : KeepsTerms env (terms s) op) : KeepsTerms env (terms s') op := by
  obtain ⟨m, hm, hkeeps⟩ := hk
  exact ⟨m, h.terms_kept hm, hkeeps⟩

/-- **Only a request parks**, and only one the engine did not deny. -/
theorem parked_by_request (h : Step env settings s a events s') {op : FinancialOperation}
    {dReserved dCommitted : ℤ}
    (hm : .posted op .requiresApproval dReserved dCommitted ∈ events) :
    KeepsTerms env (terms s) op ∧ (orders s').find? op.id = some (orderOf op) := by
  rcases h.dispatch_cases with ⟨payload, headers, inputs, agent, mandate, result, -, hreq⟩ |
    ⟨operationId, approval, now, gateway, op₀, mandate, -, -, -, -, happ⟩ | hsettling
  · have hevaluated := @keepsTerms_of_evaluate env payload inputs agent mandate result s
      hreq.mandateFound hreq.evaluated
    have hordered : (orders s').find? inputs.id = some (orderOf (newOperation env payload inputs)) :=
      Table.find?_insert_self hreq.ordered
    cases hreq.decided with
    | rejected _ _ _ => simp at hm
    | parked hdecision _ _ =>
      simp only [List.mem_cons, reduceCtorEq, Event.posted.injEq, List.not_mem_nil, or_false,
        false_or] at hm
      obtain ⟨rfl, -⟩ := hm
      rw [hdecision] at hevaluated
      exact ⟨keepsTerms_of_order rfl (hevaluated (by decide)), hordered⟩
    | dispatched _ _ done hdone =>
      subst hdone
      simp only [List.mem_cons, reduceCtorEq, Event.posted.injEq, false_and, and_false,
        false_or] at hm
      rcases executeGatewayOperation_events hm with ⟨_, -, h⟩ | h | h | h <;> simp at h
  · cases happ with
    | rejected _ _ => simp at hm
    | dispatched _ _ done hdone =>
      subst hdone
      simp only [List.mem_cons, Event.posted.injEq, reduceCtorEq, false_and, and_false,
        false_or] at hm
      rcases executeGatewayOperation_events hm with ⟨_, -, h⟩ | h | h | h <;> simp at h
  · have hno := hsettling _ hm
    simp [Settling] at hno

/-- **One step keeps the parked operations within their terms.** -/
theorem parkedKeepTerms_step (h : Step env settings s a events s') (hp : ParkedKeepTerms env s) :
    ParkedKeepTerms env s' := by
  intro op' hop' hstatus
  have hfind : s'.operations.find? op'.id = some op' := Table.find?_of_mem hop'
  rcases h.status_origin hfind with ⟨op, hop, hsame, horder⟩ |
    ⟨op, dReserved, dCommitted, hm, hid⟩ | ⟨op, hm, -, hsame⟩
  · have hk := hp op (Table.mem_of_find? hop) (hsame.trans hstatus)
    exact keepsTerms_of_order horder (Step.keepsTerms h hk)
  · rw [hstatus] at hm
    obtain ⟨hk, hordered⟩ := parked_by_request h hm
    rw [hid, orders_find?, hfind] at hordered
    exact keepsTerms_of_order (Option.some.inj hordered) (Step.keepsTerms h hk)
  · have hruled := h.ruled_or_verified
    rcases hruled with hruled | ⟨_, -, rfl⟩
    · obtain ⟨L, hrule⟩ := Machine.exists_of_along hruled hm
      rw [hstatus, hrule.1] at hsame
      cases hsame
    · simp at hm

/-! ### Mediation at dispatch -/

/-- The time at which a request or an approval is processed; nothing else dispatches. -/
def clock : Action → ℤ
  | .request _ _ inputs => inputs.now
  | .approve _ _ now _ => now
  | _ => 0

/-- Everything a dispatch of `op` at the time `now` is conditional on. -/
structure Mediated (env : Platform) (s : Store) (now : ℤ) (op : FinancialOperation)
    (agent : Agent) (mandate : Mandate) : Prop where
  agentFound : s.agents.find? op.agentId = some agent
  agentActive : agent.status = .active
  mandateFound : s.mandates.find? op.mandateId = some mandate
  mandateActive : mandate.status = .active
  effective : mandate.validFrom.instant ≤ now
  unexpired : now ≤ mandate.validUntil.instant
  ancestorsActive : ∀ p, Ancestor s.mandates mandate p → p.status = .active
  currency : env.upper op.currency = env.upper mandate.currency
  operationType : mandate.allowedOperations = [] ∨
    op.operationType.value ∈ mandate.allowedOperations
  perOperation : op.amount ≤ mandate.maxAmountPerOp

/-- Whenever the action calls the gateway for an operation, everything is as it has to be. -/
def DispatchMediated (env : Platform) (settings : Settings) (s : Store) (a : Action) : Prop :=
  ∀ op call, .gatewayCall op call ∈ (controlPlane env settings).log s a →
    ∃ agent mandate, Mediated env s (clock a) op agent mandate

/-- An approval that reserves the amount and goes on to call the gateway is given while the agent
and the mandate are ACTIVE and the mandate is inside its window. -/
def ApprovedLive (env : Platform) (s : Store) : Action → Prop
  | .approve operationId approval now gateway => ∀ op mandate,
      Granted s operationId approval op mandate →
      (attemptGateway env gateway (grantApproval approval.approvedById op) op.payload).1 ≠ [] →
      (∃ agent, s.agents.find? op.agentId = some agent ∧ agent.status = .active) ∧
        mandate.status = .active ∧ mandate.validFrom.instant ≤ now ∧
        now ≤ mandate.validUntil.instant
  | _ => True

/-- The calls among the observations of a gateway execution. -/
theorem call_of_executeGatewayOperation {gateway : GatewayAnswers} {mandate : Mandate}
    {operation op : FinancialOperation} {payload : JsonValue.Dict} {s : Store} {call : GatewayCall}
    (hm : .gatewayCall op call ∈ (executeGatewayOperation env gateway mandate operation payload
      s).events) :
    op = operation ∧ (attemptGateway env gateway operation payload).1 ≠ [] := by
  rcases executeGatewayOperation_events hm with ⟨call', hcall, h⟩ | h | h | h
  · cases h
    exact ⟨rfl, List.ne_nil_of_mem hcall⟩
  · cases h
  · cases h
  · cases h

/-- **One step mediates its calls**, if the hierarchy is live, the parked operations keep their
terms and the approvals are given while everything is live. -/
theorem mediated_step (h : Step env settings s a events s') (hlive : LiveHierarchy s.mandates)
    (hparked : ParkedKeepTerms env s) (happroved : ApprovedLive env s a) {op : FinancialOperation}
    {call : GatewayCall} (hm : .gatewayCall op call ∈ events) :
    ∃ agent mandate, Mediated env s (clock a) op agent mandate := by
  rcases h.dispatch_cases with ⟨payload, headers, inputs, agent, mandate, result, rfl, hreq⟩ |
    ⟨operationId, approval, now, gateway, op₀, mandate, rfl, hfound, hstatus, hmandate, happ⟩ |
    hsettling
  · have hmandate := hreq.mandateFound
    cases hreq.decided with
    | rejected _ _ _ => simp at hm
    | parked _ _ _ => simp at hm
    | dispatched hdecision _ done hdone =>
      subst hdone
      simp only [List.mem_cons, reduceCtorEq, false_or] at hm
      obtain ⟨rfl, -⟩ := call_of_executeGatewayOperation hm
      have hwithin := withinMandate_of_evaluate hreq.evaluated (by rw [hdecision]; decide)
      exact ⟨agent, mandate, hreq.agentFound, hwithin.agentActive, hmandate,
        hwithin.mandateActive, hwithin.effective, hwithin.unexpired,
        fun p hp => hlive.ancestor_active (Table.mem_of_find? hmandate) hwithin.mandateActive hp,
        hwithin.currency, hwithin.operationType, hwithin.perOperation⟩
  · cases happ with
    | rejected _ _ => simp at hm
    | dispatched happrove hroom done hdone =>
      subst hdone
      simp only [List.mem_cons, reduceCtorEq, false_or] at hm
      obtain ⟨rfl, hcalls⟩ := call_of_executeGatewayOperation hm
      obtain ⟨⟨agent, hagent, hactive⟩, hmactive, hfrom, huntil⟩ :=
        happroved op₀ mandate ⟨hfound, hstatus, happrove, hmandate, hroom⟩ hcalls
      obtain ⟨hself, -⟩ := Store.find?_of_operationByOperationId hfound
      obtain ⟨m, hmterm, hcurrency, htype, hamount⟩ :=
        hparked op₀ (Table.mem_of_find? hself) hstatus
      rw [terms_find?, hmandate] at hmterm
      cases hmterm
      exact ⟨agent, mandate, hagent, hactive, hmandate, hmactive, hfrom, huntil,
        fun p hp => hlive.ancestor_active (Table.mem_of_find? hmandate) hmactive hp,
        hcurrency, htype, hamount⟩
  · exact absurd (hsettling _ hm) id

/-- **Complete mediation.**  From a store without operations whose hierarchy is live, every call of
every run is mediated at the moment it is made, if the approvals that dispatch are given while the
agent and the mandate are ACTIVE and the mandate is inside its window. -/
theorem complete_mediation (env : Platform) (settings : Settings) (s : Store)
    (actions : List Action) (hempty : s.operations.rows = []) (hlive : LiveHierarchy s.mandates)
    (happroved : (controlPlane env settings).Along (ApprovedLive env) s actions) :
    (controlPlane env settings).Along (DispatchMediated env settings) s actions := by
  have hstep : ∀ (s : Store) (a : Action), (LiveHierarchy s.mandates ∧ ParkedKeepTerms env s) →
      ApprovedLive env s a → LiveHierarchy ((controlPlane env settings).next s a).mandates ∧
        ParkedKeepTerms env ((controlPlane env settings).next s a) := by
    rintro s a ⟨hl, hp⟩ -
    have h := perform_step env settings s a
    exact ⟨liveHierarchy_step h hl, parkedKeepTerms_step h hp⟩
  have hparked : ParkedKeepTerms env s := by
    intro op hop
    rw [hempty] at hop
    cases hop
  exact Machine.along_of_inv hstep
    (fun s a hI ha op call hm => mediated_step (perform_step env settings s a) hI.1 hI.2 ha hm)
    ⟨hlive, hparked⟩ happroved

theorem reviewStore_live : LiveHierarchy Sample.reviewStore.mandates := by
  refine ⟨by decide +kernel, fun m hm id hlink => ?_⟩
  rw [List.mem_singleton.mp hm] at hlink
  cases hlink

/-- A parked request that is approved while everything is live. -/
theorem complete_mediation_approveA :
    (controlPlane Sample.platform Sample.settings).Along
      (DispatchMediated Sample.platform Sample.settings) Sample.reviewStore
      [Sample.requestA, Sample.approve "operation_A" "order_A" 600 true] := by
  refine complete_mediation _ _ _ _ rfl reviewStore_live ⟨trivial, ?_, trivial⟩
  rintro op mandate ⟨hfound, -, -, hmandate, -⟩ -
  have hagent : (((controlPlane Sample.platform Sample.settings).next
      Sample.reviewStore Sample.requestA).agents.find? "agt_1").map Agent.status =
        some .active := by
    decide +kernel
  have hoperations : ((controlPlane Sample.platform Sample.settings).next
      Sample.reviewStore Sample.requestA).operations.rows.all
        (fun op => op.agentId = "agt_1") = true := by
    decide +kernel
  have hmandates : ((controlPlane Sample.platform Sample.settings).next
      Sample.reviewStore Sample.requestA).mandates.rows.all
        (fun m => m.status = .active && m.validFrom.instant ≤ 20 && 20 ≤ m.validUntil.instant) =
          true := by
    decide +kernel
  obtain ⟨agent, hfind, hactive⟩ := Option.map_eq_some_iff.mp hagent
  have hself := (Store.find?_of_operationByOperationId hfound).1
  have hid := of_decide_eq_true (List.all_eq_true.mp hoperations op (Table.mem_of_find? hself))
  have hlive := List.all_eq_true.mp hmandates mandate (Table.mem_of_find? hmandate)
  simp only [Bool.and_eq_true, decide_eq_true_eq] at hlive
  exact ⟨⟨agent, hid ▸ hfind, hactive⟩, hlive.1.1, hlive.1.2, hlive.2⟩

/-- The agent a gateway call is made for. -/
def calledAgent : Event → Option String
  | .gatewayCall op _ => some op.agentId
  | _ => none

/-- The agent is suspended between the request and its approval: the order is created all the
same. -/
theorem not_mediated_of_suspended_agent :
    Sample.reviewStore.operations.rows = [] ∧ LiveHierarchy Sample.reviewStore.mandates ∧
      ¬ (controlPlane Sample.platform Sample.settings).Along
        (DispatchMediated Sample.platform Sample.settings) Sample.reviewStore
        [Sample.requestA, .agentStatus "agt_1" .suspended none,
          Sample.approve "operation_A" "order_A" 600 true] := by
  refine ⟨rfl, reviewStore_live, fun h => ?_⟩
  obtain ⟨-, -, hmediated, -⟩ := h
  generalize hs : (controlPlane Sample.platform Sample.settings).next
    ((controlPlane Sample.platform Sample.settings).next
      Sample.reviewStore Sample.requestA)
      (.agentStatus "agt_1" .suspended none) = s at hmediated
  have hcalls : ((controlPlane Sample.platform Sample.settings).log s
      (Sample.approve "operation_A" "order_A" 600 true)).filterMap calledAgent = ["agt_1"] := by
    rw [← hs]
    decide +kernel
  have hagents : s.agents.rows.all (fun agent => agent.status ≠ .active) = true := by
    rw [← hs]
    decide +kernel
  obtain ⟨e, he, hcall⟩ := List.mem_filterMap.mp (hcalls ▸ List.mem_singleton_self "agt_1")
  cases e with
  | gatewayCall op call =>
    obtain ⟨agent, mandate, hm⟩ := hmediated op call he
    have hsuspended := List.all_eq_true.mp hagents agent (Table.mem_of_find? hm.agentFound)
    exact of_decide_eq_true hsuspended hm.agentActive
  | issued _ => cases hcall
  | opened _ => cases hcall
  | posted _ _ _ _ => cases hcall
  | credited _ _ => cases hcall

/-! ### Denial -/

/-- The operation is in a status from which no call is made and no reservation taken. -/
def PastDispatch (id : String) (L : Books) : Prop :=
  ∃ hold, L.holds.find? id = some hold ∧ hold.phase ≠ .initiated ∧
    hold.phase ≠ .requiresApproval ∧ hold.phase ≠ .reserved

/-- A posting from such a status settles. -/
theorem Posting.settles {acc : Option (HoldLedger.Account String ℤ)} {amount : ℤ}
    {source target : OperationStatus} {dReserved dCommitted : ℤ}
    (h : Posting acc amount source target dReserved dCommitted) (h₁ : source ≠ .initiated)
    (h₂ : source ≠ .requiresApproval) (h₃ : source ≠ .reserved) :
    target = .succeeded ∨ target = .failed := by
  cases h with
  | reject h => exact absurd h (not_or.mpr ⟨h₁, h₂⟩)
  | park => exact absurd rfl h₁
  | reserve h _ _ => exact absurd h (not_or.mpr ⟨h₁, h₂⟩)
  | execute => exact absurd rfl h₃
  | commit _ => exact .inl rfl
  | release _ => exact .inr rfl
  | commitUncovered _ _ _ => exact .inl rfl
  | releaseUncovered _ _ _ => exact .inr rfl
  | commitUnfunded _ _ => exact .inl rfl
  | releaseUnfunded _ _ => exact .inr rfl

theorem pastDispatch_posted {id : String} {L : Books} {op : FinancialOperation}
    {target : OperationStatus} {dReserved dCommitted : ℤ} (hp : PastDispatch id L)
    (htarget : op.id = id → target = .succeeded ∨ target = .failed) :
    PastDispatch id (L.enter (entry (.posted op target dReserved dCommitted))) := by
  obtain ⟨hold, hfind, hpast⟩ := hp
  have hmoved : (L.enter (entry (.posted op target dReserved dCommitted))).holds.find? id =
      if id = op.id then (L.holds.find? op.id).map (HoldLedger.Hold.moveTo target)
      else L.holds.find? id :=
    HoldLedger.holds_enter_post L op.id id op.mandateId target dReserved dCommitted
  by_cases hid : id = op.id
  · rw [if_pos hid, ← hid, hfind] at hmoved
    refine ⟨_, hmoved, ?_⟩
    show target ≠ _ ∧ target ≠ _ ∧ target ≠ _
    rcases htarget hid.symm with rfl | rfl <;> decide
  · rw [if_neg hid] at hmoved
    exact ⟨hold, hmoved.trans hfind, hpast⟩

/-- **Past dispatch for good.**  A ruled observation leaves the operation past dispatch, and is no
call for it. -/
theorem pastDispatch_ruled {id : String} {L : Books} {e : Event} (hp : PastDispatch id L)
    (hr : EventRule L e) :
    PastDispatch id (L.enter (entry e)) ∧ ∀ op call, e = .gatewayCall op call → op.id ≠ id := by
  have hown := hp
  obtain ⟨hold, hfind, h₁, h₂, h₃⟩ := hp
  cases e with
  | issued m => exact ⟨⟨hold, hfind, h₁, h₂, h₃⟩, fun _ _ h => by cases h⟩
  | credited _ _ => exact ⟨⟨hold, hfind, h₁, h₂, h₃⟩, fun _ _ h => by cases h⟩
  | gatewayCall op call =>
    refine ⟨⟨hold, hfind, h₁, h₂, h₃⟩, fun op' call' h hid => ?_⟩
    cases h
    rw [← hid, hr.1] at hfind
    cases hfind
    exact h₃ hr.2
  | opened op =>
    exact ⟨⟨hold, HoldLedger.holds_enter_hold hfind, h₁, h₂, h₃⟩, fun _ _ h => by cases h⟩
  | posted op target dReserved dCommitted =>
    refine ⟨pastDispatch_posted hown fun hid => ?_, fun _ _ h => by cases h⟩
    rw [← hid, hr.1] at hfind
    cases hfind
    exact Posting.settles hr.2 h₁ h₂ h₃

theorem pastDispatch_step {id : String} (h : Step env settings s a events s')
    (hp : PastDispatch id (ledger s)) :
    PastDispatch id (ledger s') ∧ ∀ op call, .gatewayCall op call ∈ events → op.id ≠ id := by
  rw [h.books]
  rcases h.ruled_or_verified with hruled | ⟨op, -, rfl⟩
  · have hstep : ∀ (L : Books) (e : Event), PastDispatch id L → EventRule L e →
        PastDispatch id (eventBook.next L e) := fun _ _ hp hr => (pastDispatch_ruled hp hr).1
    refine ⟨Machine.inv_run hstep hp hruled, fun op call hm => ?_⟩
    have hno := Machine.along_of_inv hstep (fun _ _ hp hr => (pastDispatch_ruled hp hr).2) hp hruled
    obtain ⟨_, hcall⟩ := Machine.exists_of_along hno hm
    exact hcall op call rfl
  · refine ⟨pastDispatch_posted hp fun _ => .inl rfl, fun op' call hm => ?_⟩
    cases List.mem_singleton.mp hm

/-- **Zero dispatch on denial.**  A request that is denied, parked or loses its reservation calls
nothing, records no transaction and leaves every mandate as it is; and in no continuation is the
gateway called for an operation that is POLICY_REJECTED. -/
theorem zero_dispatch_on_denial (env : Platform) (settings : Settings) (s : Store) :
    (∀ payload headers inputs agent mandate result,
      s.agents.find? payload.agentId = some agent →
      s.mandates.find? payload.mandateId = some mandate →
      evaluate env (requestEvaluation inputs) agent mandate (newOperation env payload inputs) =
        .ok result →
      (result.decision = .deny ∨ result.decision = .requireHumanReview ∨
        reserveBudget s mandate.id payload.amount = none) →
      (∀ op call, .gatewayCall op call ∉
          (controlPlane env settings).log s (.request payload headers inputs)) ∧
        ((controlPlane env settings).next s (.request payload headers inputs)).transactions =
          s.transactions ∧
        ((controlPlane env settings).next s (.request payload headers inputs)).mandates =
          s.mandates) ∧
    ∀ op ∈ s.operations.rows, op.status = .policyRejected → ∀ actions op' call,
      .gatewayCall op' call ∈ (controlPlane env settings).trace s actions → op'.id ≠ op.id := by
  constructor
  · intro payload headers inputs agent mandate result hagent hmandate hresult hdenied
    have h := perform_step env settings s (.request payload headers inputs)
    show (∀ op call, .gatewayCall op call ∉ (perform env settings s _).2) ∧
      (perform env settings s _).1.transactions = _ ∧ (perform env settings s _).1.mandates = _
    generalize (perform env settings s (.request payload headers inputs)).2 = events at h ⊢
    generalize (perform env settings s (.request payload headers inputs)).1 = s' at h ⊢
    cases h with
    | refused => exact ⟨fun _ _ h => absurd h List.not_mem_nil, rfl, rfl⟩
    | @requested _ _ _ _ _ agent' mandate' result' hreq =>
      have ha := hreq.agentFound
      have hm := hreq.mandateFound
      have he := hreq.evaluated
      rw [hagent] at ha
      rw [hmandate] at hm
      cases ha
      cases hm
      rw [hresult] at he
      cases he
      cases hreq.decided with
      | rejected _ hms hts => exact ⟨fun _ _ h => by simp at h, hts, hms⟩
      | parked _ hms hts => exact ⟨fun _ _ h => by simp at h, hts, hms⟩
      | dispatched hdecision hroom _ _ =>
        rw [hdecision] at hdenied
        rcases hdenied with h | h | hlost
        · cases h
        · cases h
        · have hkey : mandate.id = payload.mandateId := Table.key_of_find? hmandate
          have hfits : mandate.currentAggregateSpend + mandate.reservedSpend + payload.amount ≤
              mandate.aggregateSpendLimit := hroom
          rw [reserveBudget, hkey, hmandate] at hlost
          simp [hfits] at hlost
  · intro op hop hstatus actions op' call hm
    have hpast : PastDispatch op.id (ledger s) := by
      refine ⟨operationHold op, ?_, ?_⟩
      · rw [holds_find?, show s.operations.find? op.id = some op from Table.find?_of_mem hop]
        rfl
      · show op.status ≠ _ ∧ op.status ≠ _ ∧ op.status ≠ _
        rw [hstatus]
        decide
    have hstep : ∀ (s : Store) (a : Action), PastDispatch op.id (ledger s) → True →
        PastDispatch op.id (ledger ((controlPlane env settings).next s a)) :=
      fun s a hp _ => (pastDispatch_step (perform_step env settings s a) hp).1
    have hlog : ∀ (s : Store) (a : Action), PastDispatch op.id (ledger s) → True →
        ∀ e ∈ (controlPlane env settings).log s a,
          ∀ op₁ call₁, e = .gatewayCall op₁ call₁ → op₁.id ≠ op.id := by
      rintro s a hp - e he op₁ call₁ rfl
      exact (pastDispatch_step (perform_step env settings s a) hp).2 op₁ call₁ he
    exact Machine.trace_forall hstep hlog hpast
      (Machine.along_of_forall fun _ _ _ => trivial) _ hm op' call rfl

/-- A request that is parked, and one that a principal rejects afterwards. -/
theorem zero_dispatch_on_denial_requestA :
    (∀ op call, .gatewayCall op call ∉ (controlPlane Sample.platform Sample.settings).log
        Sample.reviewStore Sample.requestA) ∧
      ∃ op ∈ ((controlPlane Sample.platform Sample.settings).run Sample.reviewStore
          [Sample.requestA, Sample.approve "operation_A" "order_A" 600 false]).operations.rows,
        ∀ op' call, .gatewayCall op' call ∈ (controlPlane Sample.platform Sample.settings).trace
          ((controlPlane Sample.platform Sample.settings).run Sample.reviewStore
            [Sample.requestA, Sample.approve "operation_A" "order_A" 600 false])
          [Sample.approve "operation_A" "order_A" 600 true] → op'.id ≠ op.id := by
  constructor
  · have hdecision : (evaluate Sample.platform (requestEvaluation (Sample.inputs "operation_A"
        "order_A" 600)) Sample.agent { Sample.mandate with reviewThresholdAmount := some 500 }
        (newOperation Sample.platform Sample.orderA (Sample.inputs "operation_A" "order_A"
          600))).toOption.map PolicyEvaluationResult.decision = some .requireHumanReview := by
      decide +kernel
    obtain ⟨result, hresult, hreview⟩ := Option.map_eq_some_iff.mp hdecision
    have hok : evaluate Sample.platform (requestEvaluation (Sample.inputs "operation_A" "order_A"
        600)) Sample.agent { Sample.mandate with reviewThresholdAmount := some 500 }
        (newOperation Sample.platform Sample.orderA (Sample.inputs "operation_A" "order_A" 600)) =
          .ok result := by
      revert hresult
      cases evaluate Sample.platform _ Sample.agent _ _ with
      | error _ => exact fun h => by cases h
      | ok r => exact fun h => by cases h; rfl
    exact ((zero_dispatch_on_denial Sample.platform Sample.settings Sample.reviewStore).1
      Sample.orderA _ (Sample.inputs "operation_A" "order_A" 600) Sample.agent _ result rfl rfl hok
      (.inr (.inl hreview))).1
  · have hrejected : ((controlPlane Sample.platform Sample.settings).run Sample.reviewStore
        [Sample.requestA, Sample.approve "operation_A" "order_A" 600 false]).operations.rows.map
          FinancialOperation.status = [.policyRejected] := by
      decide +kernel
    obtain ⟨op, hop, hstatus⟩ :=
      List.mem_map.mp (hrejected ▸ List.mem_singleton_self OperationStatus.policyRejected)
    exact ⟨op, hop, (zero_dispatch_on_denial Sample.platform Sample.settings _).2 op hop hstatus
      [Sample.approve "operation_A" "order_A" 600 true]⟩

end MandatePlane.DispatchMediation

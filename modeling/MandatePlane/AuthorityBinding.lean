import MandatePlane.ControlPlane

/-!
# Whose mandate is charged

A request names an agent and a mandate.  Neither the authentication nor any rule of
the policy engine relates the two, so a request spends from a mandate that was
granted to another agent exactly when every check passes that the pipeline does
make.  Where the requests name their agent's own mandates, every operation that
was not rejected belongs to the agent that holds its mandate.
-/

namespace MandatePlane.AuthorityBinding

open DomainModel KeyedTable LabelledRun LedgerView HostEnvironment HandlerPostings
open ControlPlane OperationRoutes PolicyEngine CallerAuth

variable {env : Platform} {settings : Settings} {s s' : Store} {a : Action} {events : List Event}

/-! ### Bound operations -/

/-- The agent of the operation holds the mandate it is charged to. -/
def Bound (issued : Table Mandate) (op : FinancialOperation) : Prop :=
  ∃ mandate, issued.find? op.mandateId = some mandate ∧ mandate.agentId = op.agentId

/-- Every operation in flight or settled belongs to the agent that holds its mandate. -/
def ChargesBound (s : Store) : Prop :=
  ∀ op ∈ s.operations.rows, op.status = .reserved ∨ op.status = .executing ∨
    op.status = .succeeded → Bound s.mandates op

theorem bound_terms {op : FinancialOperation} : Bound (terms s) op ↔ Bound s.mandates op := by
  constructor
  · rintro ⟨m, hm, hagent⟩
    rw [terms_find?] at hm
    obtain ⟨m₀, hm₀, rfl⟩ := Option.map_eq_some_iff.mp hm
    exact ⟨m₀, hm₀, hagent⟩
  · rintro ⟨m, hm, hagent⟩
    refine ⟨termsOf m, ?_, hagent⟩
    rw [terms_find?, hm]
    rfl

theorem bound_of_order {issued : Table Mandate} {op op' : FinancialOperation}
    (h : orderOf op' = orderOf op) (hb : Bound issued op) : Bound issued op' := by
  have hmandate : op'.mandateId = op.mandateId := congrArg (·.mandateId) h
  have hagent : op'.agentId = op.agentId := congrArg (·.agentId) h
  unfold Bound
  rw [hmandate, hagent]
  exact hb

/-- Requests that are not denied name a mandate of their agent, and payments are not verified for
rejected operations. -/
def OwnMandates (env : Platform) (settings : Settings) (s : Store) : Action → Prop
  | .request payload _ inputs => ∀ agent mandate result,
      s.agents.find? payload.agentId = some agent →
      s.mandates.find? payload.mandateId = some mandate →
      evaluate env (requestEvaluation inputs) agent mandate (newOperation env payload inputs) =
        .ok result → result.decision ≠ .deny → mandate.agentId = payload.agentId
  | .verify operationId payload => ∀ op tx, Verified env settings s operationId payload op tx →
      op.status ≠ .policyRejected
  | _ => True

/-- Every operation that was not rejected is bound. -/
def UnrejectedBound (s : Store) : Prop :=
  ∀ op ∈ s.operations.rows, op.status ≠ .policyRejected → Bound (terms s) op

theorem Step.bound_kept (h : Step env settings s a events s') {op op' : FinancialOperation}
    (horder : orderOf op' = orderOf op) (hb : Bound (terms s) op) : Bound (terms s') op' := by
  obtain ⟨m, hm, hagent⟩ := hb
  exact bound_of_order horder ⟨m, h.terms_kept hm, hagent⟩

/-- A denied request leaves its operation rejected. -/
theorem rejected_of_denied {payload : OperationCreate} {inputs : RequestInputs} {agent : Agent}
    {mandate : Mandate} {headers : CallerHeaders} {result : PolicyEvaluationResult}
    {op' : FinancialOperation}
    (h : Requested env settings payload headers inputs s events s' agent mandate result)
    (hdeny : result.decision = .deny) (hop' : s'.operations.find? inputs.id = some op') :
    op'.status = .policyRejected := by
  cases h.decided with
  | parked hdecision _ _ => rw [hdeny] at hdecision; cases hdecision
  | dispatched hdecision _ _ _ => rw [hdeny] at hdecision; cases hdecision
  | rejected _ _ _ =>
    have hbooks := congrArg (fun L : Books => L.holds.find? inputs.id) h.explained.books
    rw [holds_find?, hop'] at hbooks
    have hposted := hbooks.trans (HoldLedger.holds_enter_post _ inputs.id inputs.id _ _ _ _)
    rw [if_pos rfl] at hposted
    obtain ⟨hold, -, hmoved⟩ := Option.map_eq_some_iff.mp hposted.symm
    exact (congrArg HoldLedger.Hold.phase hmoved).symm

/-- **One step keeps the operations bound.** -/
theorem unrejectedBound_step (h : Step env settings s a events s')
    (hown : OwnMandates env settings s a) (hb : UnrejectedBound s) : UnrejectedBound s' := by
  intro op' hop' hstatus'
  have hfind' : s'.operations.find? op'.id = some op' := Table.find?_of_mem hop'
  cases hfind : s.operations.find? op'.id with
  | some op =>
    obtain ⟨op₁, hop₁, horder⟩ := h.operation_kept hfind
    rw [hfind'] at hop₁
    cases hop₁
    refine Step.bound_kept h horder (hb op (Table.mem_of_find? hfind) fun hrejected => ?_)
    have hterminal : StateMachine.Terminal op.status := by
      rw [hrejected]
      rfl
    obtain ⟨⟨op₁, hop₁, hsame⟩, -⟩ := h.terminal_kept hfind hterminal fun _ _ op₁ tx ha hv hid => by
      subst ha
      have hself := hv.self
      rw [hid, hfind] at hself
      cases hself
      exact hown _ _ hv hrejected
    rw [hfind'] at hop₁
    cases hop₁
    exact hstatus' (hsame.trans hrejected)
  | none =>
    rcases h.orders_cases with he | ⟨payload, headers, inputs, agent, mandate, result, rfl, hreq⟩
    · have hnone : (orders s').find? op'.id = none := by rw [he, orders_find?, hfind]; rfl
      rw [orders_find?, hfind'] at hnone
      cases hnone
    · have hinsert := Table.find?_insert hreq.ordered op'.id
      rw [orders_find?, hfind', orders_find?, hfind] at hinsert
      split at hinsert
      · rename_i hid
        have hid : op'.id = inputs.id := hid
        have horder : orderOf op' = orderOf (newOperation env payload inputs) :=
          Option.some.inj hinsert
        refine Step.bound_kept h horder ⟨termsOf mandate, ?_, ?_⟩
        · rw [terms_find?, show s.mandates.find? (newOperation env payload inputs).mandateId =
            some mandate from hreq.mandateFound]
          rfl
        · refine hown agent mandate result hreq.agentFound hreq.mandateFound hreq.evaluated ?_
          exact fun hdeny => hstatus' (rejected_of_denied hreq hdeny (hid ▸ hfind'))
      · cases hinsert

/-- **Authority binding.**  A request spends from its own agent's mandate exactly if the mandate it
names is its agent's or one of the pipeline's checks stops it; and in a run of requests that name
their own mandates, whatever is in flight or settled belongs to the holder of its mandate. -/
theorem authority_bound (env : Platform) (settings : Settings) (s : Store) :
    (∀ payload headers inputs,
      (∀ op, ((∃ dReserved dCommitted, .posted op .reserved dReserved dCommitted ∈
            (controlPlane env settings).log s (.request payload headers inputs)) ∨
          ∃ call, .gatewayCall op call ∈
            (controlPlane env settings).log s (.request payload headers inputs)) →
          Bound s.mandates op) ↔
        ∀ agent mandate, Permitted env settings s payload headers inputs agent mandate →
          mandate.agentId = payload.agentId) ∧
    (s.operations.rows = [] → ∀ actions,
      (controlPlane env settings).Along (OwnMandates env settings) s actions →
        (controlPlane env settings).Throughout ChargesBound s actions) := by
  constructor
  · intro payload headers inputs
    constructor
    · intro hbound agent mandate hpermitted
      obtain ⟨op, hm, -, hagent, hmandate⟩ := reserves_of_permitted hpermitted
      obtain ⟨m, hfind, hholder⟩ := hbound op (.inl ⟨_, _, hm⟩)
      rw [hmandate, hpermitted.mandateFound] at hfind
      cases hfind
      exact hholder.trans hagent
    · intro hown op hm
      obtain ⟨hagent, hmandate, agent, mandate, hpermitted⟩ :=
        permitted_of_dispatch (perform_step env settings s (.request payload headers inputs)) hm
      exact ⟨mandate, hmandate ▸ hpermitted.mandateFound,
        (hown agent mandate hpermitted).trans hagent.symm⟩
  · intro hempty actions hown
    have hstart : UnrejectedBound s := by
      intro op hop
      rw [hempty] at hop
      cases hop
    refine Machine.throughout_mono (fun s hb op hop hstatus => ?_)
      (Machine.throughout_of_inv (fun s a hb ha =>
        unrejectedBound_step (perform_step env settings s a) ha hb) hstart hown)
    refine bound_terms.mp (hb op hop fun hrejected => ?_)
    rw [hrejected] at hstatus
    rcases hstatus with h | h | h <;> cases h

/-- The agent's order under its own mandate. -/
theorem authority_bound_requestA :
    (∀ op, ((∃ dReserved dCommitted, .posted op .reserved dReserved dCommitted ∈
          (controlPlane Sample.platform Sample.settings).log Sample.store Sample.requestA) ∨
        ∃ call, .gatewayCall op call ∈
          (controlPlane Sample.platform Sample.settings).log Sample.store Sample.requestA) →
        Bound Sample.store.mandates op) ∧
      (controlPlane Sample.platform Sample.settings).Throughout ChargesBound Sample.store
        [Sample.requestA] := by
  have hbound := authority_bound Sample.platform Sample.settings Sample.store
  have hholder (mandate : Mandate) (hm : Sample.store.mandates.find? "mnd_1" = some mandate) :
      mandate.agentId = "agt_1" := by
    rw [List.mem_singleton.mp (Table.mem_of_find? hm)]
    rfl
  refine ⟨(hbound.1 Sample.orderA _ _).mpr fun _ mandate h => hholder mandate h.mandateFound,
    hbound.2 rfl _ ⟨?_, trivial⟩⟩
  exact fun _ mandate _ _ hm _ _ => hholder mandate hm

/-- The second agent's order under the first agent's mandate is dispatched. -/
theorem not_bound_of_foreignOrder :
    Sample.twoAgents.operations.rows = [] ∧
      ¬ (controlPlane Sample.platform Sample.settings).Throughout ChargesBound Sample.twoAgents
        [.request Sample.foreignOrder ⟨none, none, none⟩
          (Sample.inputs "operation_A" "order_A" 600)] := by
  refine ⟨rfl, fun h => ?_⟩
  have hlast := Machine.throughout_iff.mp h _ (List.prefix_refl _)
  generalize hs : (controlPlane Sample.platform Sample.settings).run Sample.twoAgents
    [.request Sample.foreignOrder ⟨none, none, none⟩
      (Sample.inputs "operation_A" "order_A" 600)] = s at hlast
  have hoperations : s.operations.rows.map (fun op => (op.status, op.agentId)) =
      [(.executing, "agt_2")] := by
    rw [← hs]
    decide +kernel
  have hmandates : s.mandates.rows.all (fun m => m.agentId = "agt_1") = true := by
    rw [← hs]
    decide +kernel
  obtain ⟨op, hop, hshape⟩ := List.mem_map.mp
    (hoperations ▸ List.mem_singleton_self (OperationStatus.executing, "agt_2"))
  obtain ⟨hstatus, hagent⟩ := Prod.mk.inj hshape
  obtain ⟨m, hm, hholder⟩ := hlast op hop (.inr (.inl hstatus))
  have hone := of_decide_eq_true (List.all_eq_true.mp hmandates m (Table.mem_of_find? hm))
  rw [hone, hagent] at hholder
  exact absurd hholder (by decide)

end MandatePlane.AuthorityBinding

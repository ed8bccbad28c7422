import MandatePlane.PolicyDryRun

/-!
# Who signs off a large operation

An operation that reaches the review threshold of its mandate is parked, and only an
approval dispatches it.  The approval brings the id of the principal who gives it; the
id is stored with the operation and nothing looks it up.
-/

namespace MandatePlane.HumanSignoff

open DomainModel KeyedTable LabelledRun LedgerView JsonValue HostEnvironment PolicyEngine
open OperationRoutes RazorpayClient HandlerPostings ControlPlane PolicyDryRun

/-! ### The review rule -/

/-- The review rule permits what has been approved, and what stays below a positive threshold. -/
theorem humanReviewThresholdRule_allow {mandate : Mandate} {operation : FinancialOperation} :
    (humanReviewThresholdRule mandate operation).decision = .allow ↔
      truthyId operation.approvedById ≠ none ∨
        ∀ threshold, mandate.reviewThresholdAmount = some threshold →
          threshold = 0 ∨ operation.amount < threshold := by
  unfold humanReviewThresholdRule
  cases truthyId operation.approvedById with
  | some id => simp [allowed]
  | none =>
    cases mandate.reviewThresholdAmount with
    | none => simp [allowed]
    | some threshold =>
      by_cases h : threshold ≠ 0 ∧ operation.amount ≥ threshold
      · simp only [if_pos h]
        simp
        omega
      · simp only [if_neg h]
        simp [allowed]
        omega

/-- What a request dispatches without an approval stays below the threshold. -/
theorem below_threshold_of_evaluate {env : Platform} {inputs : RequestInputs} {agent : Agent}
    {mandate : Mandate} {operation : FinancialOperation} {result : PolicyEvaluationResult}
    (h : evaluate env (requestEvaluation inputs) agent mandate operation = .ok result)
    (hallow : result.decision = .allow) (hnew : operation.approvedById = none) {threshold : ℤ}
    (hthreshold : mandate.reviewThresholdAmount = some threshold) :
    threshold = 0 ∨ operation.amount < threshold := by
  obtain ⟨hierarchy, hrule, -⟩ := hierarchicalDelegationRule_none mandate
  obtain ⟨result', hresult', hdecision⟩ := @evaluate_of_hierarchy env (requestEvaluation inputs)
    agent mandate operation hierarchy hrule
  rw [h] at hresult'
  cases hresult'
  rw [hallow] at hdecision
  have hall := (foldl_add_allow.mp hdecision.symm).2
  have hreview := hall (humanReviewThresholdRule mandate operation) (by simp [verdicts])
  rcases humanReviewThresholdRule_allow.mp hreview with happroved | hbelow
  · rw [hnew] at happroved
    exact absurd rfl happroved
  · exact hbelow threshold hthreshold

/-! ### Calls and approvals -/

/-- The id belongs to a principal who is stored and active. -/
def ActivePrincipal (s : Store) (id : String) : Prop :=
  ∃ p, s.principals.find? id = some p ∧ p.isActive = true

/-- The amount reaches the positive review threshold of the operation's mandate. -/
def ReachesThreshold (s : Store) (op : FinancialOperation) : Prop :=
  ∃ m threshold, s.mandates.find? op.mandateId = some m ∧
    m.reviewThresholdAmount = some threshold ∧ 0 < threshold ∧ threshold ≤ op.amount

/-- **Signed off**: every operation that reaches the gateway in this step, and the threshold, was
approved under the id of an active principal. -/
def CallsSignedOff (env : Platform) (settings : Settings) (s : Store) (a : Action) : Prop :=
  ∀ op call, .gatewayCall op call ∈ (controlPlane env settings).log s a → ReachesThreshold s op →
    ∃ id, op.approvedById = some id ∧ ActivePrincipal s id

/-- An approval that dispatches an operation over the threshold is given under the id of an active
principal. -/
def GivenByPrincipal (env : Platform) (s : Store) : Action → Prop
  | .approve operationId approval _ gateway => ∀ op mandate,
      Granted s operationId approval op mandate →
      (attemptGateway env gateway (grantApproval approval.approvedById op) op.payload).1 ≠ [] →
      ReachesThreshold s op → ActivePrincipal s approval.approvedById
  | _ => True

section Steps

variable {env : Platform} {settings : Settings} {s s' : Store} {a : Action} {events : List Event}

/-- A granted approval makes the calls of the operation it grants. -/
theorem calls_of_granted {operationId : String} {approval : HumanApprovalRequest} {now : ℤ}
    {gateway : GatewayAnswers} {op : FinancialOperation} {mandate : Mandate} {call : GatewayCall}
    (h : Granted s operationId approval op mandate)
    (hcall : call ∈
      (attemptGateway env gateway (grantApproval approval.approvedById op) op.payload).1) :
    .gatewayCall (grantApproval approval.approvedById op) call ∈
      (controlPlane env settings).log s (.approve operationId approval now gateway) := by
  have hkey : mandate.id = op.mandateId := Table.key_of_find? h.mandateFound
  have hreserve : ∃ s₁, reserveBudget s mandate.id op.amount = some s₁ := by
    rw [reserveBudget, hkey, h.mandateFound]
    simp only [if_pos h.room]
    exact ⟨_, rfl⟩
  obtain ⟨s₁, hreserve⟩ := hreserve
  have hmade : ∀ s₂, .gatewayCall (grantApproval approval.approvedById op) call ∈
      (executeGatewayOperation env gateway mandate (grantApproval approval.approvedById op)
        op.payload s₂).events := by
    intro s₂
    have hm := List.mem_map_of_mem (f := Event.gatewayCall (grantApproval approval.approvedById op))
      hcall
    unfold executeGatewayOperation
    cases hattempt : (attemptGateway env gateway (grantApproval approval.approvedById op)
        op.payload).2 with
    | error text =>
      simp only [hattempt]
      exact List.mem_append_left _ hm
    | ok dispatched =>
      cases dispatched with
      | notDispatched =>
        simp only [hattempt]
        exact hm
      | executing tx =>
        simp only [hattempt]
        exact List.mem_append_left _ hm
      | settled tx =>
        simp only [hattempt]
        exact List.mem_append_left _ hm
  show _ ∈ (outcome s (humanApproveOperation env operationId approval gateway s)).2
  unfold humanApproveOperation
  rw [h.found]
  simp only [bind, Except.bind, orRefuse, h.parked, decide_true, ensure, if_true, h.mandateFound,
    h.approved, Bool.not_true, Bool.false_eq_true, if_false, hreserve, pure, Except.pure, outcome]
  exact List.mem_cons_of_mem _ (hmade _)

/-- **One step.**  Its calls are signed off exactly if its approvals are given by principals. -/
theorem callsSignedOff_iff :
    CallsSignedOff env settings s a ↔ GivenByPrincipal env s a := by
  constructor
  · intro h
    cases a with
    | approve operationId approval now gateway =>
      intro op mandate hgranted hcalls hreaches
      obtain ⟨call, hcall⟩ := List.exists_mem_of_ne_nil _ hcalls
      obtain ⟨id, hid, hactive⟩ := h _ call (calls_of_granted hgranted hcall) hreaches
      cases hid
      exact hactive
    | request _ _ _ => trivial
    | verify _ _ => trivial
    | webhook _ => trivial
    | sweep _ => trivial
    | create _ _ _ => trivial
    | delegate _ _ _ _ => trivial
    | suspend _ _ => trivial
    | revoke _ _ => trivial
    | activate _ => trivial
    | agentStatus _ _ _ => trivial
  · intro h op call hcall hreaches
    have hstep := perform_step env settings s a
    have hm : .gatewayCall op call ∈ (perform env settings s a).2 := hcall
    rcases hstep.dispatch_cases with
      ⟨payload, headers, inputs, agent, mandate, result, rfl, hreq⟩ |
      ⟨operationId, approval, now, gateway, op₀, mandate, rfl, hfound, hstatus, hmandate, happ⟩ |
      hsettling
    · -- a request dispatches only below the threshold
      generalize (perform env settings s (.request payload headers inputs)).2 = events at hm hreq
      generalize (perform env settings s (.request payload headers inputs)).1 = s' at hreq
      cases hreq.decided with
      | rejected _ _ _ => simp at hm
      | parked _ _ _ => simp at hm
      | dispatched hallow _ done hdone =>
        subst hdone
        simp only [List.mem_cons, reduceCtorEq, false_or] at hm
        have hop : op = (withDetails result (newOperation env payload inputs)).moveTo .reserved := by
          rcases executeGatewayOperation_events hm with ⟨_, -, he⟩ | he | he | he <;> cases he
          rfl
        obtain ⟨m, threshold, hm, hthreshold, hpos, hle⟩ := hreaches
        rw [hop] at hm hle
        have hsame : s.mandates.find? payload.mandateId = some m := hm
        rw [hreq.mandateFound] at hsame
        cases hsame
        have hbelow := below_threshold_of_evaluate hreq.evaluated hallow rfl hthreshold
        have hamount : ((withDetails result (newOperation env payload inputs)).moveTo
            .reserved).amount = (newOperation env payload inputs).amount := rfl
        omega
    · generalize (perform env settings s (.approve operationId approval now gateway)).2 = events
        at hm happ
      generalize (perform env settings s (.approve operationId approval now gateway)).1 = s' at happ
      cases happ with
      | rejected _ _ => simp at hm
      | dispatched happroved hroom done hdone =>
        subst hdone
        simp only [List.mem_cons, reduceCtorEq, false_or] at hm
        rcases executeGatewayOperation_events hm with ⟨call', hmade, he⟩ | he | he | he <;> cases he
        exact ⟨_, rfl, h op₀ mandate ⟨hfound, hstatus, happroved, hmandate, hroom⟩
          (List.ne_nil_of_mem hmade) hreaches⟩
    · exact absurd (hsettling _ hm) id

end Steps

/-- **Large operations and principals.**  In a run every operation over its review threshold that
reaches the gateway was approved by an active principal, exactly if every approval that dispatches
such an operation is given under the id of one. -/
theorem calls_signed_off_iff (env : Platform) (settings : Settings) (s : Store)
    (actions : List Action) :
    (controlPlane env settings).Along (CallsSignedOff env settings) s actions ↔
      (controlPlane env settings).Along (GivenByPrincipal env) s actions :=
  ⟨Machine.along_mono fun _ _ => callsSignedOff_iff.mp,
    Machine.along_mono fun _ _ => callsSignedOff_iff.mpr⟩

section Unknown

open Sample

/-- The parked order of 600 is approved under an id that nobody has. -/
def approveUnknown : Action :=
  .approve "operation_A" ⟨"nobody", true, none⟩ 20
    ⟨.ok ⟨"order_A", 600, "INR", "created"⟩, .error "", .error ""⟩

/-- The approval is accepted and the order dispatched. -/
theorem not_signed_off_by_unknown :
    ¬ (controlPlane platform settings).Along (CallsSignedOff platform settings) reviewStore
      [requestA, approveUnknown] := by
  rintro ⟨-, h, -⟩
  have hcalled : (firstCall ((controlPlane platform settings).log
      ((controlPlane platform settings).next reviewStore requestA) approveUnknown)).map
        (fun made => (made.1.approvedById, made.1.mandateId, made.1.amount)) =
          some (some "nobody", "mnd_1", 600) := by
    decide +kernel
  obtain ⟨⟨op, call⟩, hfirst, hop⟩ := Option.map_eq_some_iff.mp hcalled
  obtain ⟨happroved, hmandate, hamount⟩ : op.approvedById = some "nobody" ∧
      op.mandateId = "mnd_1" ∧ op.amount = 600 := by
    simpa using hop
  have hterms : (((controlPlane platform settings).next reviewStore requestA).mandates.find?
      "mnd_1").map Mandate.reviewThresholdAmount = some (some 500) := by
    decide +kernel
  obtain ⟨m, hm, hthreshold⟩ := Option.map_eq_some_iff.mp hterms
  obtain ⟨id, hid, p, hp, -⟩ := h op call (mem_of_firstCall hfirst)
    ⟨m, 500, hmandate ▸ hm, hthreshold, by decide, by omega⟩
  rw [happroved] at hid
  cases hid
  have hnobody : ((controlPlane platform settings).next reviewStore requestA).principals.find?
      "nobody" = none := rfl
  rw [hnobody] at hp
  cases hp

end Unknown

end MandatePlane.HumanSignoff

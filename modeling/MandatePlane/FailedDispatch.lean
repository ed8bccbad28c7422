import MandatePlane.ControlPlane

/-!
# Dispatches that fail

Whatever is raised while the gateway request is built, sent or its answer read, ends in one
`except` clause.  By then the amount has been reserved and nothing else has been written, and
the clause takes the amount out again: the request or the approval ends with the counters it
found, one release in the audit trail, and no transaction.
-/

namespace MandatePlane.FailedDispatch

open DomainModel KeyedTable LabelledRun HostEnvironment HandlerPostings PolicyEngine
open OperationRoutes RazorpayClient CallerAuth ControlPlane

/-- The operation FAILED, no transaction was added, the budget was released once in the audit
trail, and the mandate's counters are as they were. -/
structure Restored (s s' : Store) (op : FinancialOperation) : Prop where
  failed : ∃ op', s'.operations.find? op.id = some op' ∧ op'.status = .failed
  transactions : s'.transactions = s.transactions
  released : ∃ added, s'.auditEvents = s.auditEvents ++ added ∧
    (added.map AuditEvent.action).count .budgetReleased = 1
  counters : ∃ m m', s.mandates.find? op.mandateId = some m ∧
    s'.mandates.find? op.mandateId = some m' ∧ m'.reservedSpend = m.reservedSpend ∧
    m'.currentAggregateSpend = m.currentAggregateSpend

/-- What both handlers do once the policy or the reviewer has let the operation pass, if the
dispatch raises: reserve, mark the operation, record it, dispatch. -/
theorem restored_of_dispatch {env : Platform} {gateway : GatewayAnswers} {s s₀ s₁ : Store}
    {op r granted : FinancialOperation} {mandate : Mandate} {payload : JsonValue.Dict}
    {grant : FinancialOperation → FinancialOperation} {e : AuditEvent} {earlier : List AuditEvent}
    {hf : ∀ op, Keyed.key (grant op) = Keyed.key op} {text : String}
    (hmandate : s.mandates.find? op.mandateId = some mandate)
    (hmandates : s₀.mandates = s.mandates) (htransactions : s₀.transactions = s.transactions)
    (hfind : s₀.operations.find? op.id = some r)
    (haudits : s₀.auditEvents = s.auditEvents ++ earlier)
    (hearlier : (earlier.map AuditEvent.action).count .budgetReleased = 0)
    (hreserve : reserveBudget s₀ mandate.id op.amount = some s₁)
    (he : e.action ≠ .budgetReleased) (hid : granted.id = op.id)
    (hamount : granted.amount = op.amount)
    (hfailure : (attemptGateway env gateway granted payload).2 = .error text) :
    Restored s (executeGatewayOperation env gateway mandate granted payload
      ((s₁.updateOperation op.id grant hf).audit e)).store op := by
  obtain ⟨rfl, -⟩ := reserveBudget_eq_some hreserve
  have hkey : mandate.id = op.mandateId := Table.key_of_find? hmandate
  simp only [executeGatewayOperation, hfailure]
  refine ⟨?_, htransactions, ?_, ?_⟩
  · have hoperation : ((s₀.operations.modify op.id grant hf).modify granted.id
        (FinancialOperation.moveToWith .failed (some text)) fun _ => key_kept rfl).find? op.id =
          some ((grant r).moveToWith .failed (some text)) := by
      rw [hid, Table.find?_modify_self, Table.find?_modify_self, hfind]
      rfl
    exact ⟨_, hoperation, rfl⟩
  · refine ⟨earlier ++ [e, releaseAudit mandate granted], ?_, ?_⟩
    · show (s₀.auditEvents ++ [e]) ++ [releaseAudit mandate granted] = _
      rw [haudits]
      simp
    · have hone : ([e, releaseAudit mandate granted].map AuditEvent.action).count
          .budgetReleased = 1 := by
        simp [he, releaseAudit]
      rw [List.map_append, List.count_append, hearlier, hone]
  · have hstored : ((s₀.mandates.modify mandate.id (Mandate.reserve op.amount)
        fun _ => key_kept rfl).modify mandate.id (Mandate.release granted.amount)
          fun _ => key_kept rfl).find? op.mandateId =
            some ((mandate.reserve op.amount).release op.amount) := by
      rw [hkey, hamount, Table.find?_modify_self, Table.find?_modify_self, hmandates, hmandate]
      rfl
    refine ⟨mandate, _, hmandate, hstored, ?_, rfl⟩
    show mandate.reservedSpend + op.amount - op.amount = mandate.reservedSpend
    omega

/-- A dispatch reserves nothing. -/
theorem not_reserved_of_dispatch {env : Platform} {gateway : GatewayAnswers} {mandate : Mandate}
    {operation op : FinancialOperation} {payload : JsonValue.Dict} {s : Store} {amount : ℤ}
    (hm : .posted op .reserved amount 0 ∈ (executeGatewayOperation env gateway mandate operation
      payload s).events) : False := by
  rcases executeGatewayOperation_events hm with ⟨call, -, h⟩ | h | h | h
  · cases h
  · cases h
  · cases h
  · cases h

/-- A request that reserved the amount and whose dispatch raised. -/
theorem request_restored {env : Platform} {settings : Settings} {payload : OperationCreate}
    {headers : CallerHeaders} {inputs : RequestInputs} {s : Store} {c : Committed FinancialOperation}
    {op : FinancialOperation} {text : String}
    (h : requestFinancialOperation env settings payload headers inputs s = .ok c)
    (hreserved : .posted op .reserved op.amount 0 ∈ c.events)
    (hfailure : (attemptGateway env inputs.gateway op op.payload).2 = .error text) :
    Restored s c.store op := by
  rcases request_returned h with ⟨existingOp, -, rfl⟩ | ⟨agent, mandate, s₁, result, hev, rfl⟩
  · cases hreserved
  · obtain ⟨-, -, hfind, -, -, htransactions, hmandates⟩ :=
      LedgerView.ledger_insertOperation hev.inserted
    revert hreserved
    unfold actOnDecision
    split
    · intro hm
      simp at hm
    · intro hm
      simp at hm
    · split
      · intro hm
        simp at hm
      · rename_i s₂ hreserve
        intro hm
        simp only [List.mem_cons, reduceCtorEq, false_or, Event.posted.injEq] at hm
        rcases hm with ⟨rfl, -⟩ | hm
        · have hrow : (s₁.operations.modify inputs.id (withDetails result)
              fun _ => key_kept rfl).find? inputs.id =
                some (withDetails result (newOperation env payload inputs)) := by
            rw [Table.find?_modify_self]
            exact congrArg (Option.map (withDetails result)) hfind
          have haudits : s₁.auditEvents ++ [evaluationAudit payload (newOperation env payload inputs)
              result] = s.auditEvents ++ [evaluationAudit payload (newOperation env payload inputs)
              result] := by
            rw [LedgerView.insertOperation_audits hev.inserted]
          refine @restored_of_dispatch env inputs.gateway s
            (recordEvaluation payload (newOperation env payload inputs) result s₁) s₂
            (withDetails result (newOperation env payload inputs)) _ _ mandate payload.payload _ _ _ _
            text hev.mandateFound hmandates htransactions hrow haudits ?_ hreserve ?_ rfl rfl hfailure
          · simp [evaluationAudit]
          · simp [reserveAudit]
        · exact (not_reserved_of_dispatch hm).elim

/-- An approval that reserved the amount and whose dispatch raised. -/
theorem approval_restored {env : Platform} {operationId : String} {approval : HumanApprovalRequest}
    {gateway : GatewayAnswers} {s : Store} {c : Committed FinancialOperation}
    {op : FinancialOperation} {text : String}
    (h : humanApproveOperation env operationId approval gateway s = .ok c)
    (hreserved : .posted op .reserved op.amount 0 ∈ c.events)
    (hfailure : (attemptGateway env gateway op op.payload).2 = .error text) :
    Restored s c.store op := by
  obtain ⟨found, mandate, hrow, -, hmandate, hdone⟩ := approval_returned h
  have hfind := (Store.find?_of_operationByOperationId hrow).1
  cases hdone with
  | declined => simp at hreserved
  | exhausted => simp at hreserved
  | granted happroved hreserve hdone =>
    subst hdone
    simp only [List.mem_cons, Event.posted.injEq] at hreserved
    rcases hreserved with ⟨rfl, -⟩ | hm
    · have haudits : s.auditEvents = s.auditEvents ++ [] := (List.append_nil _).symm
      refine restored_of_dispatch hmandate rfl rfl hfind haudits rfl hreserve ?_ rfl rfl hfailure
      simp [approvalAudit]
    · exact (not_reserved_of_dispatch hm).elim

/-- **A failed dispatch restores the budget.**  After every request and every approval that
reserved its amount and whose dispatch raised, the operation is FAILED without a transaction, the
budget was released once, and the mandate's counters are those from before the reservation. -/
theorem failure_restores_budget (env : Platform) (settings : Settings) (s : Store) (a : Action)
    (gateway : GatewayAnswers) (op : FinancialOperation) (text : String)
    (hanswers : answers a = some gateway)
    (hreserved : .posted op .reserved op.amount 0 ∈ (controlPlane env settings).log s a)
    (hfailure : (attemptGateway env gateway op op.payload).2 = .error text) :
    Restored s ((controlPlane env settings).next s a) op := by
  have hm : .posted op .reserved op.amount 0 ∈ (perform env settings s a).2 := hreserved
  show Restored s (perform env settings s a).1 op
  cases a with
  | request payload headers inputs =>
    cases hanswers
    rcases outcome_cases s (requestFinancialOperation env settings payload headers inputs s) with
      h | ⟨c, hc, h⟩ <;> rw [perform, h] at hm ⊢
    · cases hm
    · exact request_restored hc hm hfailure
  | approve operationId approval now gateway' =>
    cases hanswers
    rcases outcome_cases s (humanApproveOperation env operationId approval gateway s) with
      h | ⟨c, hc, h⟩ <;> rw [perform, h] at hm ⊢
    · cases hm
    · exact approval_restored hc hm hfailure
  | verify _ _ => cases hanswers
  | webhook _ => cases hanswers
  | sweep _ => cases hanswers
  | create _ _ _ => cases hanswers
  | delegate _ _ _ _ => cases hanswers
  | suspend _ _ => cases hanswers
  | revoke _ _ => cases hanswers
  | activate _ => cases hanswers
  | agentStatus _ _ _ => cases hanswers

/-- The first order, whose creation the gateway refuses. -/
def refusedGateway : GatewayAnswers := ⟨.error "BAD_REQUEST_ERROR", .error "", .error ""⟩

def requestRefused : Action :=
  .request Sample.orderA ⟨none, none, none⟩
    { Sample.inputs "operation_A" "order_A" 600 with gateway := refusedGateway }

/-- The first reservation a list of observations shows. -/
def firstReserved (events : List Event) : Option FinancialOperation :=
  events.findSome? fun
    | .posted op .reserved dReserved 0 => if dReserved = op.amount then some op else none
    | _ => none

theorem mem_of_firstReserved {events : List Event} {op : FinancialOperation}
    (h : firstReserved events = some op) : .posted op .reserved op.amount 0 ∈ events := by
  obtain ⟨e, hm, he⟩ := List.exists_of_findSome?_eq_some h
  split at he
  · split at he
    · rename_i hamount
      cases he
      exact hamount ▸ hm
    · cases he
  · cases he

/-- A refused order. -/
theorem failure_restores_budget_requestRefused :
    ∃ op, Restored Sample.store
      ((controlPlane Sample.platform Sample.settings).next Sample.store requestRefused) op := by
  have hshown : (firstReserved ((controlPlane Sample.platform Sample.settings).log Sample.store
      requestRefused)).map (fun op =>
        match (attemptGateway Sample.platform refusedGateway op op.payload).2 with
        | .error text => text == "BAD_REQUEST_ERROR"
        | .ok _ => false) = some true := by
    decide +kernel
  obtain ⟨op, hfirst, hraised⟩ := Option.map_eq_some_iff.mp hshown
  refine ⟨op, ?_⟩
  split at hraised
  · rename_i text hfailure
    exact failure_restores_budget _ _ _ requestRefused refusedGateway op text rfl
      (mem_of_firstReserved hfirst) hfailure
  · cases hraised

end MandatePlane.FailedDispatch

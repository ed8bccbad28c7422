import MandatePlane.ActiveMandates
import MandatePlane.OperationSessions
import MandatePlane.TransactionLinks

/-!
# One dispatch for each operation

An operation's amount is reserved at most once, the gateway is called for it at most as
often as its amount is reserved, and a transaction is recorded for it only where the
gateway was called.  The counts are taken over a whole run of the system, entries of
agents, approvals, deliveries and sweeps in any order.

What would make a second reservation possible is a status before the dispatch, and no
step takes an operation back to one.
-/

namespace MandatePlane.SingleDispatch

open DomainModel KeyedTable HoldLedger LabelledRun LedgerView HostEnvironment HandlerPostings
open ControlPlane AgentChat EntryPoints ActiveMandates TransactionLinks OperationSessions

/-! ### Counting along a log -/

/-- A reservation of the operation's amount. -/
def reservesFor (id : String) : Event → Bool
  | .posted op .reserved _ _ => op.id = id
  | _ => false

/-- A mutating gateway call for the operation. -/
def callsFor (id : String) : Event → Bool
  | .gatewayCall op _ => op.id = id
  | _ => false

/-- The transactions recorded for the operation. -/
def recordedFor (id : String) (s : Store) : ℕ := (links s).countP fun link => link.1 = id

/-- **The chain of counts** along a log that leads from one store to another: the transactions it
adds are no more than the calls, these no more than the reservations, and there is one reservation
at most, of an operation that was before its dispatch. -/
structure Chain (id : String) (s : Store) (events : List Event) (s' : Store) : Prop where
  recorded : recordedFor id s' ≤ recordedFor id s + events.countP (callsFor id)
  called : events.countP (callsFor id) ≤ events.countP (reservesFor id)
  once : events.countP (reservesFor id) ≤ 1
  before : 0 < events.countP (reservesFor id) → ¬ PastDispatch id (ledger s)
  after : 0 < events.countP (reservesFor id) → PastDispatch id (ledger s')
  kept : PastDispatch id (ledger s) → PastDispatch id (ledger s')

namespace Chain

variable {id : String} {s s' s'' : Store} {events events' : List Event}

theorem refl (id : String) (s : Store) : Chain id s [] s :=
  ⟨le_rfl, le_rfl, Nat.zero_le 1, fun h => absurd h (lt_irrefl 0), fun h => absurd h (lt_irrefl 0),
    fun h => h⟩

/-- **Chains compose.**  Of two logs in a row one has no reservation: the first takes the operation
past its dispatch, where the second does not reserve. -/
theorem trans (h : Chain id s events s') (h' : Chain id s' events' s'') :
    Chain id s (events ++ events') s'' := by
  have hone : events.countP (reservesFor id) = 0 ∨ events'.countP (reservesFor id) = 0 := by
    by_contra hboth
    rw [not_or] at hboth
    exact h'.before (Nat.pos_of_ne_zero hboth.2) (h.after (Nat.pos_of_ne_zero hboth.1))
  have hrecorded := h.recorded
  have hrecorded' := h'.recorded
  have hcalled := h.called
  have hcalled' := h'.called
  have honce := h.once
  have honce' := h'.once
  refine ⟨?_, ?_, ?_, fun hpos => ?_, fun hpos => ?_, fun hpast => h'.kept (h.kept hpast)⟩
  · rw [List.countP_append]
    omega
  · rw [List.countP_append, List.countP_append]
    omega
  · rw [List.countP_append]
    omega
  · rw [List.countP_append] at hpos
    rcases hone with hzero | hzero
    · exact fun hpast => h'.before (by omega) (h.kept hpast)
    · exact h.before (by omega)
  · rw [List.countP_append] at hpos
    rcases hone with hzero | hzero
    · exact h'.after (by omega)
    · exact h'.kept (h.after (by omega))

/-- A log without calls and reservations that records nothing. -/
theorem silent (hcalls : events.countP (callsFor id) = 0)
    (hreserves : events.countP (reservesFor id) = 0) (hlinks : links s' = links s)
    (hkept : PastDispatch id (ledger s) → PastDispatch id (ledger s')) : Chain id s events s' := by
  refine ⟨?_, ?_, ?_, fun h => ?_, fun h => ?_, hkept⟩
  · rw [recordedFor, recordedFor, hlinks, hcalls]
    exact le_rfl
  · rw [hcalls]
    exact Nat.zero_le _
  · rw [hreserves]
    exact Nat.zero_le 1
  · rw [hreserves] at h
    exact absurd h (lt_irrefl 0)
  · rw [hreserves] at h
    exact absurd h (lt_irrefl 0)

end Chain

/-! ### One dispatch -/

section Dispatch

variable {env : Platform} {gateway : RazorpayClient.GatewayAnswers} {id : String}

/-- What an execution leaves of the store's links was preceded by a call. -/
theorem attemptGateway_called {operation : FinancialOperation} {payload : JsonValue.Dict}
    {dispatched : OperationRoutes.Dispatched} {tx : Transaction}
    (h : (OperationRoutes.attemptGateway env gateway operation payload).2 = .ok dispatched)
    (htx : dispatched = .executing tx ∨ dispatched = .settled tx) :
    0 < (OperationRoutes.attemptGateway env gateway operation payload).1.length := by
  unfold OperationRoutes.attemptGateway at h ⊢
  cases htype : operation.operationType with
  | createOrder =>
    simp only [htype, OperationRoutes.attemptOrder] at h ⊢
    split
    · rename_i hrequest
      simp only [hrequest] at h
      cases h
    · exact Nat.one_pos
  | createPaymentLink =>
    simp only [htype, OperationRoutes.attemptPaymentLink] at h ⊢
    split
    · rename_i hrequest
      simp only [hrequest] at h
      cases h
    · exact Nat.one_pos
  | createRefund =>
    simp only [htype, OperationRoutes.attemptRefund] at h ⊢
    split
    · rename_i hpayment
      rw [if_pos hpayment] at h
      split
      · rename_i htext
        simp only [htext] at h
        cases h
      · exact Nat.one_pos
    · rename_i hpayment
      rw [if_neg hpayment] at h
      cases h
  | capturePayment =>
    simp only [htype] at h
    cases h
    rcases htx with htx | htx <;> cases htx
  | cancelPaymentLink =>
    simp only [htype] at h
    cases h
    rcases htx with htx | htx <;> cases htx

theorem countP_calls (id : String) (operation : FinancialOperation) (calls : List GatewayCall) :
    (calls.map (Event.gatewayCall operation)).countP (callsFor id) =
        (if operation.id = id then calls.length else 0) ∧
      (calls.map (Event.gatewayCall operation)).countP (reservesFor id) = 0 := by
  induction calls with
  | nil => simp
  | cons call calls ih =>
    rw [List.map_cons, List.countP_cons, List.countP_cons, ih.1, ih.2]
    by_cases hid : operation.id = id <;> simp [callsFor, reservesFor, hid]

theorem countP_settlement (id : String) (operation : FinancialOperation)
    (attempt : Except String OperationRoutes.Dispatched) :
    (settlementEvents operation attempt).countP (callsFor id) = 0 ∧
      (settlementEvents operation attempt).countP (reservesFor id) = 0 := by
  rcases attempt with _ | (_ | _ | _) <;> exact ⟨rfl, rfl⟩

/-- **An execution calls for its own operation only, once at most, and records a transaction for it
only after the call.** -/
theorem executeGatewayOperation_counts (env : Platform) (gateway : RazorpayClient.GatewayAnswers)
    (id : String) (mandate : Mandate) (operation : FinancialOperation) (payload : JsonValue.Dict)
    (s : Store) :
    let done := OperationRoutes.executeGatewayOperation env gateway mandate operation payload s
    recordedFor id done.store ≤ recordedFor id s + done.events.countP (callsFor id) ∧
      done.events.countP (callsFor id) ≤ (if operation.id = id then 1 else 0) ∧
      done.events.countP (reservesFor id) = 0 := by
  have hcalls := countP_calls id operation
    (OperationRoutes.attemptGateway env gateway operation payload).1
  have hsettled := countP_settlement id operation
    (OperationRoutes.attemptGateway env gateway operation payload).2
  have hcounts := executeGatewayOperation_split env gateway mandate operation payload s
  have hone := attemptGateway_calls env gateway operation payload
  dsimp only
  rw [hcounts, List.countP_append, List.countP_append, hcalls.1, hcalls.2, hsettled.1, hsettled.2]
  refine ⟨?_, ?_, rfl⟩
  · have hadded {tx : Transaction} {dispatched : OperationRoutes.Dispatched}
        (h : (OperationRoutes.attemptGateway env gateway operation payload).2 = .ok dispatched)
        (htx : dispatched = .executing tx ∨ dispatched = .settled tx) :
        (links s ++ [linkOf tx]).countP (fun link => link.1 = id) ≤ recordedFor id s +
          ((if operation.id = id then
            (OperationRoutes.attemptGateway env gateway operation payload).1.length else 0) + 0) := by
      have hcalled := attemptGateway_called h htx
      have hoperation := (attemptGateway_dispatched h htx).1
      rw [List.countP_append, List.countP_singleton]
      have hlink : (linkOf tx).1 = operation.id := hoperation
      by_cases hid : operation.id = id
      · simp only [hlink, hid, decide_true, if_true]
        unfold recordedFor
        omega
      · simp only [hlink, hid, decide_false, if_false]
        exact le_rfl
    unfold OperationRoutes.executeGatewayOperation
    match hattempt : (OperationRoutes.attemptGateway env gateway operation payload).2 with
    | .ok .notDispatched =>
      simp only [hattempt]
      exact Nat.le_add_right _ _
    | .ok (.executing tx) =>
      simp only [hattempt]
      have hlinks := hadded hattempt (.inl rfl)
      rw [← List.map_singleton (f := linkOf), links, ← List.map_append] at hlinks
      exact hlinks
    | .ok (.settled tx) =>
      simp only [hattempt]
      have hlinks := hadded hattempt (.inr rfl)
      rw [← List.map_singleton (f := linkOf), links, ← List.map_append] at hlinks
      exact hlinks
    | .error text =>
      simp only [hattempt]
      exact Nat.le_add_right _ _
  · split
    · exact hone
    · exact le_rfl

end Dispatch

/-! ### One step -/

section Steps

variable {env : Platform} {settings : Settings} {s s' : Store} {events : List Event} {id : String}

theorem pastDispatch_kept {a : Action} (h : Step env settings s a events s')
    (hpast : PastDispatch id (ledger s)) : PastDispatch id (ledger s') := by
  rw [h.books]
  exact pastDispatch_run hpast (step_onward h)

/-- The log of a dispatch: the reservation and what the execution observed. -/
theorem chain_dispatched (opened : List Event) {a : Action} (h : Step env settings s a events s')
    {gateway : RazorpayClient.GatewayAnswers} {mandate : Mandate} {op operation : FinancialOperation}
    {payload : JsonValue.Dict} {s₀ : Store} {amount : ℤ}
    {done : Committed FinancialOperation}
    (hdone : done =
      OperationRoutes.executeGatewayOperation env gateway mandate operation payload s₀)
    (hevents : events = opened ++ .posted op .reserved amount 0 :: done.events)
    (hstore : s' = done.store) (hid : operation.id = op.id)
    (hbefore : s₀.transactions = s.transactions)
    (hopened : opened.countP (callsFor id) = 0 ∧ opened.countP (reservesFor id) = 0)
    (hfresh : ¬ PastDispatch op.id (ledger s)) (hpast : PastDispatch op.id (ledger s')) :
    Chain id s events s' := by
  subst hdone
  obtain ⟨hrecorded, hcalls, hreserves⟩ :=
    executeGatewayOperation_counts env gateway id mandate operation payload s₀
  have hlinks : recordedFor id s₀ = recordedFor id s :=
    congrArg (fun txs => (txs.map linkOf).countP fun link => link.1 = id) hbefore
  rw [hid] at hcalls
  have hcount : events.countP (callsFor id) =
        (OperationRoutes.executeGatewayOperation env gateway mandate operation payload
          s₀).events.countP (callsFor id) ∧
      events.countP (reservesFor id) = if op.id = id then 1 else 0 := by
    rw [hevents, List.countP_append, List.countP_append, hopened.1, hopened.2, List.countP_cons,
      List.countP_cons, hreserves]
    simp [callsFor, reservesFor]
  refine ⟨?_, ?_, ?_, fun hpos => ?_, fun hpos => ?_, pastDispatch_kept h⟩
  · rw [hcount.1, ← hlinks, hstore]
    exact hrecorded
  · rw [hcount.1, hcount.2]
    exact hcalls
  · rw [hcount.2]
    split <;> omega
  · rw [hcount.2] at hpos
    split at hpos
    · rename_i hop
      exact hop ▸ hfresh
    · exact absurd hpos (lt_irrefl 0)
  · rw [hcount.2] at hpos
    split at hpos
    · rename_i hop
      exact hop ▸ hpast
    · exact absurd hpos (lt_irrefl 0)

/-- Settling observations neither call nor reserve. -/
theorem chain_settling (hsettling : ∀ e ∈ events, Settling e) (hlinks : links s' = links s)
    (hkept : PastDispatch id (ledger s) → PastDispatch id (ledger s')) :
    Chain id s events s' := by
  have hcounts : ∀ e ∈ events, callsFor id e = false ∧ reservesFor id e = false := by
    intro e he
    have hs := hsettling e he
    cases e with
    | issued _ => exact ⟨rfl, rfl⟩
    | credited _ _ => exact ⟨rfl, rfl⟩
    | opened _ => exact ⟨rfl, rfl⟩
    | gatewayCall _ _ => exact absurd hs not_false
    | posted op target _ _ => rcases hs with rfl | rfl <;> exact ⟨rfl, rfl⟩
  refine .silent ?_ ?_ hlinks hkept
  · exact List.countP_eq_zero.mpr fun e he => by rw [(hcounts e he).1]; decide
  · exact List.countP_eq_zero.mpr fun e he => by rw [(hcounts e he).2]; decide

theorem chain_step {a : Action} (h : Step env settings s a events s') : Chain id s events s' := by
  have hkept : PastDispatch id (ledger s) → PastDispatch id (ledger s') := pastDispatch_kept h
  have hlinks {s₁ : Store} (ht : s₁.transactions = s.transactions) : links s₁ = links s :=
    congrArg (List.map linkOf) ht
  have hstep := h
  cases h with
  | refused => exact .refl id s
  | requested hreq =>
    have hruled := hreq.explained.ruled
    have hbooks := hreq.explained.books
    cases hreq.decided with
    | rejected _ _ ht => exact .silent rfl rfl (hlinks ht) hkept
    | parked _ _ ht => exact .silent rfl rfl (hlinks ht) hkept
    | dispatched _ _ done hdone hbefore =>
      refine chain_dispatched [.opened _] hstep hdone rfl rfl rfl hbefore ⟨rfl, rfl⟩ ?_ ?_
      · -- the id of a request is new
        rintro ⟨hold, hfind, -⟩
        exact absurd (hfind.symm.trans hruled.1.2.2.1) (by simp)
      · rw [hbooks]
        exact pastDispatch_reserved hruled.2
  | approved hfound hstatus _ hexplained _ happ =>
    have hself := (Store.find?_of_operationByOperationId hfound).1
    have hruled := hexplained.ruled
    have hbooks := hexplained.books
    cases happ with
    | rejected _ ht => exact .silent rfl rfl (hlinks ht) hkept
    | dispatched _ _ done hdone hbefore =>
      refine chain_dispatched [] hstep hdone rfl rfl rfl hbefore ⟨rfl, rfl⟩ ?_ ?_
      · rintro ⟨hold, hfind, hpast⟩
        rw [holds_find?, hself] at hfind
        cases hfind
        exact hpast (.inr hstatus)
      · rw [hbooks]
        exact pastDispatch_reserved hruled
  | verified _ _ _ _ _ hlinks => exact .silent rfl rfl hlinks hkept
  | delivered h => exact chain_settling (settling_delivered h) h.links hkept
  | swept _ _ hlinks hevents =>
    refine chain_settling (fun e he => ?_) hlinks hkept
    obtain ⟨op, -, rfl | rfl⟩ := hevents e he
    · exact .inr rfl
    · exact .inl rfl
  | created _ => exact .silent rfl rfl rfl hkept
  | delegated _ => exact .silent rfl rfl rfl hkept
  | suspended h => exact .silent rfl rfl (hlinks h.only.transactions) hkept
  | revoked h => exact .silent rfl rfl (hlinks h.only.transactions) hkept
  | activated _ _ => exact .silent rfl rfl rfl hkept
  | agentChanged => exact .silent rfl rfl rfl hkept

theorem chain_call {c : Call} (h : CallStep env settings s c events s') :
    Chain id s events s' := by
  cases h with
  | control h => exact chain_step h
  | silent => exact .refl id s
  | reissued h =>
    refine .silent rfl rfl rfl fun hpast => ?_
    obtain ⟨hold, hfind, hphase⟩ := hpast
    exact ⟨hold, hfind, hphase⟩

/-! ### Runs of the whole system -/

/-- A list of calls is one log. -/
theorem chain_calls (env : Platform) (settings : Settings) (id : String) (calls : List Call)
    (s : Store) :
    Chain id s ((interactivePlane env settings).trace s calls)
      ((interactivePlane env settings).run s calls) := by
  induction calls generalizing s with
  | nil => exact .refl id s
  | cons c calls ih =>
    rw [Machine.trace_cons, Machine.run_cons]
    exact (chain_call (answer_step env settings s c)).trans (ih _)

theorem chain_activity (host : Conversions) (d : Database) (act : Activity) :
    Chain id d.store ((system env settings host).log d act)
      ((system env settings host).next d act).store := by
  cases act with
  | enter e =>
    obtain ⟨calls, -, hrun, htrace⟩ := @enter_reached env settings host d e
    have h := chain_calls env settings id calls d.store
    rw [hrun, htrace] at h
    exact h
  | control a => exact chain_step (perform_step env settings d.store a)

end Steps

end MandatePlane.SingleDispatch

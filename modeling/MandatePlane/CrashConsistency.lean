import MandatePlane.DispatchMediation
import MandatePlane.OperationSessions

/-!
# What a crash leaves of a dispatch

A process that stops loses the writes its session has not committed.  Requests and
approvals commit for the first time when the gateway has answered, so between the call
and that commit the gateway knows of an operation the database does not.  Before the
call there is nothing to lose, and after the commit nothing is lost.
-/

namespace MandatePlane.CrashConsistency

open DomainModel KeyedTable HoldLedger LabelledRun LedgerView HostEnvironment HandlerPostings
open OperationRoutes RazorpayClient ControlPlane DispatchMediation ReadCommitted OperationSessions

/-! ### The ledger after a dispatch -/

/-- The status an operation is left in when the gateway has answered. -/
def settledStatus : Except String Dispatched → OperationStatus
  | .ok .notDispatched => .reserved
  | .ok (.executing _) => .executing
  | .ok (.settled _) => .succeeded
  | .error _ => .failed

/-- RESERVED or a later status. -/
def Reached (status : OperationStatus) : Prop :=
  status = .reserved ∨ status = .executing ∨ status = .succeeded ∨ status = .failed

theorem reached_settledStatus (attempt : Except String Dispatched) :
    Reached (settledStatus attempt) := by
  unfold Reached
  rcases attempt with _ | (_ | _ | _)
  · exact .inr (.inr (.inr rfl))
  · exact .inr (.inl rfl)
  · exact .inr (.inr (.inl rfl))
  · exact .inl rfl

theorem eventBook_calls (L : Books) (op : FinancialOperation) (calls : List GatewayCall) :
    eventBook.run L (calls.map (Event.gatewayCall op)) = L := by
  induction calls with
  | nil => rfl
  | cons call calls ih => exact ih

/-- **A reservation and what follows from it.**  The hold ends in the status the gateway's answer
gives it, and its account counts the amount as that status says. -/
theorem books_of_dispatch {L : Books} {op granted : FinancialOperation}
    {hold : Hold String String OperationStatus ℤ} {acc : Account String ℤ}
    (horder : orderOf granted = orderOf op) (hhold : L.holds.find? op.id = some hold)
    (hacc : L.accounts.find? op.mandateId = some acc) (calls : List GatewayCall)
    (attempt : Except String Dispatched) {L' : Books}
    (hL' : L' = eventBook.run L (.posted op .reserved op.amount 0 ::
      (calls.map (Event.gatewayCall granted) ++ settlementEvents granted attempt))) :
    L'.holds.find? op.id = some (hold.moveTo (settledStatus attempt)) ∧
      L'.accounts.find? op.mandateId = some (acc.move
        (reservedIn (settledStatus attempt) op.amount)
        (committedIn (settledStatus attempt) op.amount)) := by
  have hid : granted.id = op.id := congrArg (·.id) horder
  have hmandate : granted.mandateId = op.mandateId := congrArg (·.mandateId) horder
  have hamount : granted.amount = op.amount := congrArg (·.amount) horder
  rw [Machine.run_cons, Machine.run_append, eventBook_calls] at hL'
  -- the reservation first
  have hpost {M : Books} {h : Hold String String OperationStatus ℤ} {a : Account String ℤ}
      (hh : M.holds.find? op.id = some h) (ha : M.accounts.find? op.mandateId = some a)
      (target : OperationStatus) (dHeld dSpent : ℤ) :
      (M.enter (.post op.id op.mandateId target dHeld dSpent)).holds.find? op.id =
          some (h.moveTo target) ∧
        (M.enter (.post op.id op.mandateId target dHeld dSpent)).accounts.find? op.mandateId =
          some (a.move dHeld dSpent) := by
    refine ⟨?_, ?_⟩
    · rw [holds_enter_post, if_pos rfl, hh]
      rfl
    · show (M.accounts.modify op.mandateId (Account.move dHeld dSpent)).find? op.mandateId = _
      rw [Table.find?_modify_self, ha]
      rfl
  obtain ⟨hh₁, ha₁⟩ := hpost hhold hacc .reserved op.amount 0
  match attempt with
  | .ok .notDispatched =>
    subst hL'
    exact ⟨hh₁, ha₁⟩
  | .ok (.executing _) =>
    obtain ⟨hh₂, ha₂⟩ := hpost hh₁ ha₁ .executing 0 0
    subst hL'
    simp only [settlementEvents, Machine.run_cons, eventBook_next, entry, hid, hmandate]
    refine ⟨hh₂, ha₂.trans ?_⟩
    simp [Account.move, settledStatus, reservedIn, committedIn, OperationStatus.inFlight]
  | .ok (.settled _) =>
    obtain ⟨hh₂, ha₂⟩ := hpost hh₁ ha₁ .succeeded (-op.amount) op.amount
    subst hL'
    simp only [settlementEvents, Machine.run_cons, eventBook_next, entry, hid, hmandate, hamount]
    refine ⟨hh₂, ha₂.trans ?_⟩
    simp [Account.move, settledStatus, reservedIn, committedIn, OperationStatus.inFlight]
  | .error _ =>
    obtain ⟨hh₂, ha₂⟩ := hpost hh₁ ha₁ .failed (-op.amount) 0
    subst hL'
    simp only [settlementEvents, Machine.run_cons, eventBook_next, entry, hid, hmandate, hamount]
    refine ⟨hh₂, ha₂.trans ?_⟩
    simp [Account.move, settledStatus, reservedIn, committedIn, OperationStatus.inFlight]

/-! ### What is on record -/

/-- The operation is in the store, in RESERVED or a later status, with the key it was requested
under, and its mandate counts the amount as the status says. -/
structure Recorded (before after : Store) (op row : FinancialOperation) : Prop where
  found : after.operations.find? op.id = some row
  ordered : orderOf row = orderOf op
  reached : Reached row.status
  counted : ∃ m m', before.mandates.find? op.mandateId = some m ∧
    after.mandates.find? op.mandateId = some m' ∧
    m'.reservedSpend = m.reservedSpend + reservedIn row.status op.amount ∧
    m'.currentAggregateSpend = m.currentAggregateSpend + committedIn row.status op.amount

/-- A log that reserves and dispatches an operation leaves it on record. -/
theorem recorded_of_dispatch {s s' : Store} {op granted : FinancialOperation}
    {hold : Hold String String OperationStatus ℤ} {mandate : Mandate} {L : Books}
    (horder : orderOf granted = orderOf op) (hhold : L.holds.find? op.id = some hold)
    (hmandate : s.mandates.find? op.mandateId = some mandate)
    (haccounts : L.accounts = (ledger s).accounts) (calls : List GatewayCall)
    (attempt : Except String Dispatched)
    (hbooks : ledger s' = eventBook.run L (.posted op .reserved op.amount 0 ::
      (calls.map (Event.gatewayCall granted) ++ settlementEvents granted attempt)))
    (hkept : (orders s').find? op.id = some (orderOf op)) :
    ∃ row, Recorded s s' granted row := by
  have hid : granted.id = op.id := congrArg (·.id) horder
  have hto : granted.mandateId = op.mandateId := congrArg (·.mandateId) horder
  have hamount : granted.amount = op.amount := congrArg (·.amount) horder
  have hacc : L.accounts.find? op.mandateId = some (mandateAccount mandate) := by
    rw [haccounts, accounts_find?, hmandate]
    rfl
  obtain ⟨hrow, haccount⟩ := books_of_dispatch horder hhold hacc calls attempt hbooks
  rw [orders_find?] at hkept
  obtain ⟨row, hfind, hordered⟩ := Option.map_eq_some_iff.mp hkept
  rw [holds_find?, hfind] at hrow
  have hstatus : row.status = settledStatus attempt :=
    congrArg Hold.phase (Option.some.inj hrow)
  rw [accounts_find?] at haccount
  obtain ⟨mandate', hmandate', hcounters⟩ := Option.map_eq_some_iff.mp haccount
  refine ⟨row, ?_, hordered.trans horder.symm, ?_, mandate, mandate', ?_, ?_, ?_, ?_⟩
  · rw [hid]
    exact hfind
  · rw [hstatus]
    exact reached_settledStatus attempt
  · rw [hto]
    exact hmandate
  · rw [hto]
    exact hmandate'
  · rw [hstatus, hamount]
    exact congrArg Account.held hcounters
  · rw [hstatus, hamount]
    exact congrArg Account.spent hcounters

section Endpoints

variable {env : Platform} {settings : Settings} {s : Store} {op : FinancialOperation}
  {call : GatewayCall}

/-- What a request that returned has called for is on record, and was not there before. -/
theorem recorded_of_request {payload : OperationCreate} {headers : CallerAuth.CallerHeaders}
    {inputs : RequestInputs}
    (hm : .gatewayCall op call ∈
      (outcome s (requestFinancialOperation env settings payload headers inputs s)).2) :
    s.operations.find? op.id = none ∧ ∃ row, Recorded s
      (outcome s (requestFinancialOperation env settings payload headers inputs s)).1 op row := by
  rcases outcome_cases s (requestFinancialOperation env settings payload headers inputs s) with
    h | ⟨c, hc, h⟩
  · rw [h] at hm
    cases hm
  rw [h] at hm ⊢
  obtain ⟨value, s', events⟩ := c
  rcases requestFinancialOperation_spec hc with ⟨-, he⟩ | ⟨agent, mandate, result, hreq⟩
  · rw [show events = [] from he] at hm
    cases hm
  have hbooks := hreq.explained.books
  obtain ⟨s₁, hinsert⟩ := hreq.inserted
  obtain ⟨hopened, hfresh, hfound, -⟩ := ledger_insertOperation hinsert
  have hordered : (orders s').find? inputs.id =
      some (orderOf (newOperation env payload inputs)) := Table.find?_insert_self hreq.ordered
  cases hreq.decided with
  | rejected _ _ _ => simp at hm
  | parked _ _ _ => simp at hm
  | dispatched _ _ done hdone _ =>
    subst hdone
    rw [executeGatewayOperation_split] at hbooks
    simp only [List.mem_cons, reduceCtorEq, false_or] at hm
    obtain ⟨rfl, -⟩ := call_of_executeGatewayOperation hm
    refine ⟨?_, ?_⟩
    · rw [holds_find?, Option.map_eq_none_iff] at hfresh
      exact hfresh
    · have hhold : (ledger s₁).holds.find? inputs.id =
          some (operationHold (newOperation env payload inputs)) := by
        rw [holds_find?, show s₁.operations.find? inputs.id = _ from hfound]
        rfl
      exact @recorded_of_dispatch s _ (withDetails result (newOperation env payload inputs)) _ _ _
        (ledger s₁) rfl hhold hreq.mandateFound (by rw [hopened]; rfl) _ _
        (by rw [hbooks, hopened]; rfl) hordered

/-- What an approval that returned has called for is on record, and waited for the approval before. -/
theorem recorded_of_approval {operationId : String} {approval : HumanApprovalRequest}
    {gateway : GatewayAnswers}
    (hm : .gatewayCall op call ∈
      (outcome s (humanApproveOperation env operationId approval gateway s)).2) :
    (∃ row, s.operations.find? op.id = some row ∧ row.status = .requiresApproval) ∧
      ∃ row, Recorded s
        (outcome s (humanApproveOperation env operationId approval gateway s)).1 op row := by
  rcases outcome_cases s (humanApproveOperation env operationId approval gateway s) with
    h | ⟨c, hc, h⟩
  · rw [h] at hm
    cases hm
  rw [h] at hm ⊢
  obtain ⟨value, s', events⟩ := c
  obtain ⟨op₀, mandate, hself, -, hstatus, hmandate, hexplained, horders, happroved⟩ :=
    humanApproveOperation_spec hc
  have hbooks := hexplained.books
  have hordered : (orders s').find? op₀.id = some (orderOf op₀) := by
    rw [show orders s' = orders s from horders, orders_find?, hself]
    rfl
  cases happroved with
  | rejected _ _ => simp at hm
  | dispatched _ _ done hdone _ =>
    subst hdone
    rw [executeGatewayOperation_split] at hbooks
    simp only [List.mem_cons, reduceCtorEq, false_or] at hm
    obtain ⟨rfl, -⟩ := call_of_executeGatewayOperation hm
    refine ⟨⟨op₀, hself, hstatus⟩, ?_⟩
    have hhold : (ledger s).holds.find? op₀.id = some (operationHold op₀) := by
      rw [holds_find?, hself]
      rfl
    exact @recorded_of_dispatch s _ op₀ _ _ _ (ledger s) rfl hhold hmandate rfl _ _ hbooks hordered

end Endpoints

/-! ### Stopping at any point -/

section Crash

variable {π : Type} (code : π → Stmt Store Row Event π) (start : π) (s : Store) (n : ℕ)

/-- What a handler has observed when its process stops after `n` turns. -/
def observed : List Event := (solo code).trace (s, ⟨start, id⟩) (List.replicate n ())

/-- The store such a crash leaves: the committed one. -/
def leftBehind : Store := ((solo code).run (s, ⟨start, id⟩) (List.replicate n ())).1

/-- The point the handler had reached. -/
def reachedPoint : π := ((solo code).run (s, ⟨start, id⟩) (List.replicate n ())).2.point

/-- **Crash consistency.**  Every call the gateway has received by then is on record. -/
def CrashConsistent : Prop :=
  ∀ op call, .gatewayCall op call ∈ observed code start s n →
    ∃ row, Recorded s (leftBehind code start s n) op row

/-- The process does not stop between a gateway call and the commit that ends the handler. -/
def OutsideDispatch : Prop :=
  (∀ op call, .gatewayCall op call ∉ observed code start s n) ∨
    code (reachedPoint code start s n) = .stop

variable {code start s}

/-- A handler that commits last is crash consistent outside its dispatch only. -/
theorem crashConsistent_iff {labels : List Event} {s' : Store} {q : π}
    (hends : Ends code s start id labels s' q)
    (hlast : ∀ p next, code p = .commit next → code next = .stop)
    (hbefore : ∀ op call, .gatewayCall op call ∈ labels → ∀ row, ¬ Recorded s s op row)
    (hafter : ∀ op call, .gatewayCall op call ∈ labels → ∃ row, Recorded s s' op row) (n : ℕ) :
    CrashConsistent code start s n ↔ OutsideDispatch code start s n := by
  have hsofar : ∀ e ∈ observed code start s n, e ∈ labels :=
    fun e he => (hends.emitted n).subset he
  constructor
  · intro hconsistent
    by_cases hcalls : ∀ op call, .gatewayCall op call ∉ observed code start s n
    · exact .inl hcalls
    · push Not at hcalls
      obtain ⟨op, call, hm⟩ := hcalls
      rcases solo_uncommitted (w := id) (p := start) (s := s) hlast n with hsame | hstop
      · obtain ⟨row, hrow⟩ := hconsistent op call hm
        rw [leftBehind, hsame] at hrow
        exact absurd hrow (hbefore op call (hsofar _ hm) row)
      · exact .inr hstop
  · rintro (hnone | hstop) op call hm
    · exact absurd hm (hnone op call)
    · obtain ⟨hstore, -, -⟩ := hends.at_rest hstop
      rw [leftBehind, hstore]
      exact hafter op call (hsofar _ hm)

end Crash

end MandatePlane.CrashConsistency

import MandatePlane.ControlPlane

/-!
# Calls whose outcome is unknown

The client sends a mutating request once: after a timeout or a network error the
gateway may have executed it or not, and the exception goes up to the caller.  There
one `except` clause takes every exception alike.  It releases the reservation and marks
the operation FAILED, as after a definite rejection.
-/

namespace MandatePlane.GatewayFailures

open DomainModel KeyedTable HoldLedger LabelledRun LedgerView JsonValue HostEnvironment
open OperationRoutes RazorpayClient HandlerPostings ControlPlane

/-! ### The HTTP client -/

/-- How one HTTP exchange ends: with a decoded body, with an exception after which the gateway may
or may not have acted, or with another one.  The status of a response is never looked at. -/
inductive HttpOutcome where
  | response (data : Json)
  | timeoutException (text : String)
  | networkError (text : String)
  | otherException (text : String)

/-- A timeout or a network error. -/
def HttpOutcome.ambiguous : HttpOutcome → Bool
  | .timeoutException _ => true
  | .networkError _ => true
  | _ => false

/-- `data if isinstance(data, dict) else {"data": data}`. -/
def responseData : Json → Dict
  | .obj fields => fields
  | data => [("data", data)]

/-- The rounds of `_request_with_retry` that are left, the next of them being number `attempt`. -/
def requestRounds (isIdempotent : Bool) (exchange : ℕ → HttpOutcome) (exhausted : String) :
    (left attempt : ℕ) → Except String Dict
  | 0, _ => .error exhausted
  | left + 1, attempt =>
    match exchange attempt with
    | .response data => .ok (responseData data)
    | .otherException text => .error text
    | .timeoutException text =>
      if isIdempotent ∧ left ≠ 0 then
        requestRounds isIdempotent exchange exhausted left (attempt + 1)
      else .error text
    | .networkError text =>
      if isIdempotent ∧ left ≠ 0 then
        requestRounds isIdempotent exchange exhausted left (attempt + 1)
      else .error text

/-- `_request_with_retry`. -/
def requestWithRetry (method path : String) (isIdempotent : Bool) (maxRetries : ℕ)
    (exchange : ℕ → HttpOutcome) : Except String Dict :=
  let attempts := if isIdempotent then maxRetries else 1
  requestRounds isIdempotent exchange s!"Failed all {attempts} attempts for {method} {path}"
    attempts 1

/-- What pydantic makes of the decoded bodies. -/
structure ResponseModels where
  order : Dict → Except String RazorpayOrderResponse
  paymentLink : Dict → Except String RazorpayPaymentLinkResponse
  refund : Dict → Except String RazorpayRefundResponse

/-- The exchanges of one dispatch, by the mutating call they are for, and the payment a refund
names. -/
structure Exchanges where
  createOrder : ℕ → HttpOutcome
  createPaymentLink : ℕ → HttpOutcome
  createRefund : ℕ → HttpOutcome
  refundedPayment : String

/-- `create_order`, `create_payment_link` and `create_refund`. -/
def gatewayAnswers (models : ResponseModels) (exchanges : Exchanges) : GatewayAnswers where
  createOrder := (requestWithRetry "POST" "/orders" false 3 exchanges.createOrder).bind models.order
  createPaymentLink :=
    (requestWithRetry "POST" "/payment_links" false 3 exchanges.createPaymentLink).bind
      models.paymentLink
  createRefund :=
    (requestWithRetry "POST" s!"/payments/{exchanges.refundedPayment}/refund" false 3
      exchanges.createRefund).bind models.refund

/-- The exchanges made for a call. -/
def Exchanges.of (exchanges : Exchanges) : GatewayCall → ℕ → HttpOutcome
  | .createOrder _ _ _ _ => exchanges.createOrder
  | .createPaymentLink _ _ _ _ _ _ _ => exchanges.createPaymentLink
  | .createRefund _ _ _ => exchanges.createRefund

/-- A mutating request is sent once, and an ambiguous outcome is raised. -/
theorem requestWithRetry_ambiguous {method path : String} {exchange : ℕ → HttpOutcome}
    (h : (exchange 1).ambiguous = true) :
    ∃ text, requestWithRetry method path false 3 exchange = .error text := by
  unfold requestWithRetry
  simp only [Bool.false_eq_true, if_false, requestRounds, false_and]
  cases he : exchange 1 with
  | response data =>
    rw [he] at h
    cases h
  | timeoutException text => exact ⟨text, rfl⟩
  | networkError text => exact ⟨text, rfl⟩
  | otherException text =>
    rw [he] at h
    cases h

/-- Whatever the model would make of the body. -/
theorem bind_ambiguous {α : Type} {method path : String} {exchange : ℕ → HttpOutcome}
    (h : (exchange 1).ambiguous = true) (model : Dict → Except String α) :
    ∃ text, (requestWithRetry method path false 3 exchange).bind model = .error text := by
  obtain ⟨text, htext⟩ := @requestWithRetry_ambiguous method path exchange h
  rw [htext]
  exact ⟨text, rfl⟩

/-! ### The `except` clause -/

/-- The request models build the call they are named after. -/
theorem orderRequest_eq_ok {env : Platform} {amount : ℤ} {currency : String} {receipt : Json}
    {notes : List (String × String)} {call : GatewayCall}
    (h : orderRequest env amount currency receipt notes = .ok call) :
    ∃ receipt, call = .createOrder amount currency receipt notes := by
  unfold orderRequest at h
  split at h
  · cases hreceipt : optionalTextField env "RazorpayOrderRequest" "receipt" receipt with
    | error text =>
      rw [hreceipt] at h
      cases h
    | ok receipt =>
      rw [hreceipt] at h
      cases h
      exact ⟨receipt, rfl⟩
  · cases h

theorem paymentLinkRequest_eq_ok {env : Platform} {amount : ℤ} {currency : String}
    {description customerName customerEmail customerContact : Json}
    {notes : List (String × String)} {call : GatewayCall}
    (h : paymentLinkRequest env amount currency description customerName customerEmail
      customerContact notes = .ok call) :
    ∃ description name email contact,
      call = .createPaymentLink amount currency description name email contact notes := by
  obtain ⟨description, -, h⟩ := bind_eq_ok.mp h
  obtain ⟨name, -, h⟩ := bind_eq_ok.mp h
  obtain ⟨email, -, h⟩ := bind_eq_ok.mp h
  obtain ⟨contact, -, h⟩ := bind_eq_ok.mp h
  cases h
  exact ⟨description, name, email, contact, rfl⟩

section Dispatch

variable {env : Platform} {models : ResponseModels} {exchanges : Exchanges}
  {operation : FinancialOperation} {payload : Dict} {call : GatewayCall}

/-- **A dispatch whose call ended ambiguously ends with an exception.** -/
theorem attemptGateway_of_ambiguous
    (hcall : call ∈ (attemptGateway env (gatewayAnswers models exchanges) operation payload).1)
    (h : (exchanges.of call 1).ambiguous = true) :
    ∃ text, (attemptGateway env (gatewayAnswers models exchanges) operation payload).2 =
      .error text := by
  unfold attemptGateway at hcall ⊢
  cases htype : operation.operationType with
  | createOrder =>
    simp only [htype, attemptOrder] at hcall ⊢
    split
    · exact ⟨_, rfl⟩
    · rename_i request hrequest
      rw [hrequest] at hcall
      obtain ⟨receipt, rfl⟩ := orderRequest_eq_ok hrequest
      rw [List.mem_singleton.mp hcall] at h
      obtain ⟨text, htext⟩ := @bind_ambiguous _ "POST" "/orders" exchanges.createOrder h models.order
      have hanswer : (gatewayAnswers models exchanges).createOrder = .error text := htext
      rw [hanswer]
      exact ⟨text, rfl⟩
  | createPaymentLink =>
    simp only [htype, attemptPaymentLink] at hcall ⊢
    split
    · exact ⟨_, rfl⟩
    · rename_i request hrequest
      rw [hrequest] at hcall
      obtain ⟨description, name, email, contact, rfl⟩ := paymentLinkRequest_eq_ok hrequest
      rw [List.mem_singleton.mp hcall] at h
      obtain ⟨text, htext⟩ := @bind_ambiguous _ "POST" "/payment_links"
        exchanges.createPaymentLink h models.paymentLink
      have hanswer : (gatewayAnswers models exchanges).createPaymentLink = .error text := htext
      rw [hanswer]
      exact ⟨text, rfl⟩
  | createRefund =>
    simp only [htype, attemptRefund] at hcall ⊢
    split
    · rename_i htruthy
      rw [if_pos htruthy] at hcall
      split
      · exact ⟨_, rfl⟩
      · rename_i paymentId hpayment
        rw [hpayment] at hcall
        rw [List.mem_singleton.mp hcall] at h
        obtain ⟨text, htext⟩ := @bind_ambiguous _ "POST"
          s!"/payments/{exchanges.refundedPayment}/refund" exchanges.createRefund h models.refund
        have hanswer : (gatewayAnswers models exchanges).createRefund = .error text := htext
        rw [hanswer]
        exact ⟨text, rfl⟩
    · exact ⟨_, rfl⟩
  | capturePayment =>
    simp only [htype] at hcall
    exact absurd hcall List.not_mem_nil
  | cancelPaymentLink =>
    simp only [htype] at hcall
    exact absurd hcall List.not_mem_nil

/-- What is observed of it: its calls, and a release. -/
theorem events_of_ambiguous {mandate : Mandate} {s : Store}
    (hcall : call ∈ (attemptGateway env (gatewayAnswers models exchanges) operation payload).1)
    (h : (exchanges.of call 1).ambiguous = true) :
    (executeGatewayOperation env (gatewayAnswers models exchanges) mandate operation payload
      s).events =
        (attemptGateway env (gatewayAnswers models exchanges) operation payload).1.map
          (Event.gatewayCall operation) ++ [.posted operation .failed (-operation.amount) 0] := by
  obtain ⟨text, htext⟩ := attemptGateway_of_ambiguous hcall h
  simp only [executeGatewayOperation, htext]

end Dispatch

/-! ### The released reservation -/

/-- The operation waits with its amount reserved, on top of what was reserved before the call. -/
def KeepsReservation (s s' : Store) (op : FinancialOperation) : Prop :=
  (∃ op', s'.operations.find? op.id = some op' ∧ op'.status.inFlight = true) ∧
    ∃ m m', s.mandates.find? op.mandateId = some m ∧ s'.mandates.find? op.mandateId = some m' ∧
      m'.reservedSpend = m.reservedSpend + op.amount

/-- FAILED, and as much reserved as before the call. -/
def Released (s s' : Store) (op : FinancialOperation) : Prop :=
  (s'.operations.find? op.id).map FinancialOperation.status = some .failed ∧
    (s'.mandates.find? op.mandateId).map Mandate.reservedSpend =
      (s.mandates.find? op.mandateId).map Mandate.reservedSpend

theorem Released.not_kept {s s' : Store} {op : FinancialOperation} (h : Released s s' op) :
    ¬ KeepsReservation s s' op := by
  rintro ⟨⟨op', hop', hflight⟩, -⟩
  have hstatus := h.1
  rw [hop'] at hstatus
  have hfailed : op'.status = .failed := Option.some.inj hstatus
  rw [hfailed] at hflight
  cases hflight

/-- Calls leave the books as they are. -/
theorem run_calls (L : Books) (op : FinancialOperation) (calls : List GatewayCall) :
    eventBook.run L (calls.map (Event.gatewayCall op)) = L := by
  induction calls with
  | nil => rfl
  | cons call calls ih => exact ih

/-- A reservation and a release of the same amount: the books of a failed dispatch. -/
theorem released_of_books {s s' : Store} {op op₀ : FinancialOperation} {L : Books}
    {calls : List GatewayCall}
    (hentry : entry (.posted op₀ .reserved op₀.amount 0) = entry (.posted op .reserved op.amount 0))
    (hheld : (L.accounts.find? op.mandateId).map Account.held =
      ((ledger s).accounts.find? op.mandateId).map Account.held)
    (hhold : L.holds.find? op.id ≠ none)
    (hbooks : ledger s' = eventBook.run L (.posted op₀ .reserved op₀.amount 0 ::
      (calls.map (Event.gatewayCall op) ++ [.posted op .failed (-op.amount) 0]))) :
    Released s s' op := by
  have hrun : ledger s' = (L.enter (.post op.id op.mandateId .reserved op.amount 0)).enter
      (.post op.id op.mandateId .failed (-op.amount) 0) := by
    rw [hbooks, Machine.run_cons, Machine.run_append, run_calls, eventBook_next, hentry]
    rfl
  constructor
  · have hfind := congrArg (fun L : Books => L.holds.find? op.id) hrun
    simp only [holds_enter_post, if_true, holds_find?] at hfind
    cases hL : L.holds.find? op.id with
    | none => exact absurd hL hhold
    | some hold =>
      rw [hL] at hfind
      obtain ⟨op', hop', hsame⟩ := Option.map_eq_some_iff.mp hfind
      rw [hop']
      exact congrArg some (congrArg Hold.phase hsame)
  · have hfind := congrArg (fun L : Books => (L.accounts.find? op.mandateId).map Account.held) hrun
    simp only [Ledger.enter, Ledger.moveAccount, Ledger.moveHold, Table.find?_modify_self,
      Option.map_map] at hfind
    have hback : (Account.held ∘ Account.move (-op.amount) 0 ∘ Account.move op.amount 0 :
        Account String ℤ → ℤ) = Account.held := by
      funext a
      simp [Account.move]
    rw [hback, hheld, accounts_find?, accounts_find?, Option.map_map, Option.map_map] at hfind
    exact hfind

/-- The mutating call of an action, if it made one, comes from the gateway execution. -/
theorem call_of_execution {env : Platform} {gateway : GatewayAnswers} {mandate : Mandate}
    {operation op : FinancialOperation} {payload : Dict} {s : Store} {call : GatewayCall}
    (hm : .gatewayCall op call ∈ (executeGatewayOperation env gateway mandate operation payload
      s).events) :
    op = operation ∧ call ∈ (attemptGateway env gateway operation payload).1 := by
  rcases executeGatewayOperation_events hm with ⟨call', hcall, h⟩ | h | h | h
  · cases h
    exact ⟨rfl, hcall⟩
  · cases h
  · cases h
  · cases h

/-- **Ambiguous outcomes are treated as rejections.**  After every request and every approval whose
mutating call ended in a timeout or a network error the operation is FAILED and its amount is no
longer reserved: the reservation is not kept. -/
theorem ambiguous_not_kept (env : Platform) (settings : Settings) (s : Store) (a : Action)
    (models : ResponseModels) (exchanges : Exchanges) (op : FinancialOperation) (call : GatewayCall)
    (hanswers : answers a = some (gatewayAnswers models exchanges))
    (hcall : .gatewayCall op call ∈ (controlPlane env settings).log s a)
    (hambiguous : (exchanges.of call 1).ambiguous = true) :
    Released s ((controlPlane env settings).next s a) op ∧
      ¬ KeepsReservation s ((controlPlane env settings).next s a) op := by
  suffices hreleased : Released s ((controlPlane env settings).next s a) op from
    ⟨hreleased, hreleased.not_kept⟩
  have hstep := perform_step env settings s a
  have hm : .gatewayCall op call ∈ (perform env settings s a).2 := hcall
  show Released s (perform env settings s a).1 op
  generalize (perform env settings s a).2 = events at hm hstep
  generalize (perform env settings s a).1 = s' at hstep ⊢
  have hbooks := hstep.books
  rcases hstep.dispatch_cases with ⟨payload, headers, inputs, agent, mandate, result, rfl, hreq⟩ |
    ⟨operationId, approval, now, gateway, op₀, mandate, rfl, hfound, -, -, happ⟩ | hsettling
  · have hgateway : inputs.gateway = gatewayAnswers models exchanges := Option.some.inj hanswers
    have hruled := hreq.explained.ruled
    cases hreq.decided with
    | rejected _ _ _ => simp at hm
    | parked _ _ _ => simp at hm
    | dispatched _ _ done hdone =>
      subst hdone
      simp only [List.mem_cons, reduceCtorEq, false_or] at hm
      obtain ⟨rfl, hmade⟩ := call_of_execution hm
      rw [hgateway] at hmade hbooks ⊢
      rw [events_of_ambiguous hmade hambiguous] at hbooks
      have hhold := hruled.2.1.1
      -- the hold that was opened moves no account
      have hopened : ((eventBook.next (ledger s) (.opened (withDetails result
          (newOperation env payload inputs)))).accounts.find? payload.mandateId).map Account.held =
            ((ledger s).accounts.find? payload.mandateId).map Account.held := rfl
      exact released_of_books rfl hopened (fun hnone => absurd (hhold.symm.trans hnone) (by simp)) hbooks
  · have hgateway : gateway = gatewayAnswers models exchanges := Option.some.inj hanswers
    have hruled := hstep.ruled trivial
    cases happ with
    | rejected _ _ => simp at hm
    | dispatched _ _ done hdone =>
      subst hdone
      simp only [List.mem_cons, reduceCtorEq, false_or] at hm
      obtain ⟨rfl, hmade⟩ := call_of_execution hm
      rw [hgateway] at hmade hbooks ⊢
      rw [events_of_ambiguous hmade hambiguous] at hbooks
      have hhold := hruled.1.1
      exact released_of_books rfl rfl (fun hnone => absurd (hhold.symm.trans hnone) (by simp)) hbooks
  · exact absurd (hsettling _ hm) id

section Timeout

open Sample

/-- No body is decoded here. -/
def models : ResponseModels := ⟨fun _ => .error "", fun _ => .error "", fun _ => .error ""⟩

def timedOut : Exchanges :=
  ⟨fun _ => .timeoutException "The read operation timed out", fun _ => .otherException "",
    fun _ => .otherException "", ""⟩

/-- The order of 600 whose `POST /orders` times out. -/
def requestTimedOut : Action :=
  .request orderA ⟨none, none, none⟩
    { inputs "operation_A" "order_A" 600 with gateway := gatewayAnswers models timedOut }

/-- The order's call is made, and ends ambiguously. -/
theorem called_requestTimedOut :
    ∃ op call, firstCall ((controlPlane platform settings).log store requestTimedOut) =
      some (op, call) ∧ (timedOut.of call 1).ambiguous = true := by
  have hcalled : (firstCall ((controlPlane platform settings).log store requestTimedOut)).map
      (fun made => (timedOut.of made.2 1).ambiguous) = some true := by
    decide +kernel
  obtain ⟨⟨op, call⟩, hfirst, hambiguous⟩ := Option.map_eq_some_iff.mp hcalled
  exact ⟨op, call, hfirst, hambiguous⟩

/-- An order whose call times out. -/
theorem ambiguous_not_kept_requestTimedOut :
    ∃ op, Released store ((controlPlane platform settings).next store requestTimedOut) op := by
  obtain ⟨op, call, hfirst, hambiguous⟩ := called_requestTimedOut
  exact ⟨op, (ambiguous_not_kept platform settings store requestTimedOut models timedOut op call rfl
    (mem_of_firstCall hfirst) hambiguous).1⟩

/-- The timeout leaves the operation FAILED, although the gateway may have created the order. -/
theorem not_kept_of_timeout :
    ∃ op call, answers requestTimedOut = some (gatewayAnswers models timedOut) ∧
      .gatewayCall op call ∈ (controlPlane platform settings).log store requestTimedOut ∧
      (timedOut.of call 1).ambiguous = true ∧
      ¬ KeepsReservation store ((controlPlane platform settings).next store requestTimedOut) op := by
  obtain ⟨op, call, hfirst, hambiguous⟩ := called_requestTimedOut
  have hfailed : (firstCall ((controlPlane platform settings).log store requestTimedOut)).map
      (fun made => (((controlPlane platform settings).next store requestTimedOut).operations.find?
        made.1.id).map fun op => op.status.inFlight) = some (some false) := by
    decide +kernel
  rw [hfirst] at hfailed
  refine ⟨op, call, rfl, mem_of_firstCall hfirst, hambiguous, ?_⟩
  rintro ⟨⟨op', hop', hflight⟩, -⟩
  have hstatus : (((controlPlane platform settings).next store requestTimedOut).operations.find?
      op.id).map (fun op => op.status.inFlight) = some false := Option.some.inj hfailed
  rw [hop'] at hstatus
  have hnot : op'.status.inFlight = false := Option.some.inj hstatus
  rw [hflight] at hnot
  cases hnot

end Timeout

end MandatePlane.GatewayFailures

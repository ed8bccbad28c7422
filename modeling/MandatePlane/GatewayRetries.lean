import MandatePlane.GatewayFailures

/-!
# Retries of the gateway client

`_request_with_retry` has an `except` clause for statuses that are worth another attempt,
but nothing in its `try` block raises them: a response is decoded and returned whatever its
status is.  What is tried again is what timed out or did not get through, if the caller
says that the request is idempotent, as the method that cancels a payment link says of its
`POST`.
-/

namespace MandatePlane.GatewayRetries

open JsonValue HostEnvironment
open GatewayFailures (HttpOutcome responseData)

/-! ### One exchange -/

/-- How an exchange ends: with a response that has a JSON body, or with an exception. -/
inductive HttpReply where
  | response (statusCode : ℕ) (data : Json)
  | timeoutException (text : String)
  | networkError (text : String)
  | otherException (text : String)

/-- The exceptions the `except` clause tells apart, with their texts. -/
inductive HttpxError where
  | timeoutException (text : String)
  | networkError (text : String)
  | httpStatusError (statusCode : ℕ) (text : String)
  | other (text : String)

namespace HttpxError

def text : HttpxError → String
  | timeoutException text => text
  | networkError text => text
  | httpStatusError _ text => text
  | other text => text

def isRetryableStatus : HttpxError → Bool
  | httpStatusError statusCode _ => statusCode ∈ [429, 500, 502, 503, 504]
  | _ => false

def isNetworkOrTimeout : HttpxError → Bool
  | timeoutException _ => true
  | networkError _ => true
  | _ => false

end HttpxError

/-- The `try` block, where no status raises anything. -/
def tryExchange : HttpReply → Except HttpxError Dict
  | .response _ data => .ok (responseData data)
  | .timeoutException text => .error (.timeoutException text)
  | .networkError text => .error (.networkError text)
  | .otherException text => .error (.other text)

/-- The `except` clause: `continue` or `raise`. -/
def goesOn (isIdempotent : Bool) (attempt attempts : ℕ) (exc : HttpxError) : Bool :=
  isIdempotent && attempt < attempts && (exc.isRetryableStatus || exc.isNetworkOrTimeout)

/-! ### The loop -/

structure HttpRequest where
  method : String
  url : String
  json : Option Dict

/-- The arguments of `_request_with_retry`. -/
structure RetryCall where
  method : String
  path : String
  jsonData : Option Dict
  isIdempotent : Bool
  maxRetries : ℕ

/-- What a client was built with. -/
structure Client where
  baseUrl : String
  mockMode : Bool

/-- The requests a call sent, one after the other, and how it ended. -/
structure Sent where
  requests : List HttpRequest
  result : Except String Dict

/-- `client.get`, `client.post` or `client.request`. -/
def RetryCall.request (env : Platform) (client : Client) (call : RetryCall) : HttpRequest :=
  if env.upper call.method = "GET" then ⟨"GET", client.baseUrl ++ call.path, none⟩
  else if env.upper call.method = "POST" then
    ⟨"POST", client.baseUrl ++ call.path, call.jsonData⟩
  else ⟨call.method, client.baseUrl ++ call.path, call.jsonData⟩

/-- The rounds that are left of `attempts`, the next of them being number `attempt`. -/
def rounds (request : HttpRequest) (isIdempotent : Bool) (attempts : ℕ)
    (exchange : ℕ → HttpReply) (exhausted : String) : (left attempt : ℕ) → Sent
  | 0, _ => ⟨[], .error exhausted⟩
  | left + 1, attempt =>
    match tryExchange (exchange attempt) with
    | .ok data => ⟨[request], .ok data⟩
    | .error exc =>
      if goesOn isIdempotent attempt attempts exc then
        let rest := rounds request isIdempotent attempts exchange exhausted left (attempt + 1)
        ⟨request :: rest.requests, rest.result⟩
      else ⟨[request], .error exc.text⟩

/-- `max_retries if is_idempotent else 1`. -/
def RetryCall.attempts (call : RetryCall) : ℕ := if call.isIdempotent then call.maxRetries else 1

/-- `_request_with_retry`. -/
def requestWithRetry (env : Platform) (client : Client) (call : RetryCall)
    (exchange : ℕ → HttpReply) : Sent :=
  rounds (call.request env client) call.isIdempotent call.attempts exchange
    s!"Failed all {call.attempts} attempts for {call.method} {call.path}" call.attempts 1

/-! ### The methods of the client -/

structure RazorpayOrderRequest where
  amount : ℤ
  currency : String
  receipt : Option String
  notes : List (String × String)
  partialPayment : Bool

structure RazorpayRefundRequest where
  paymentId : String
  amount : Option ℤ
  notes : List (String × String)
  speed : String

structure RazorpayPaymentLinkRequest where
  amount : ℤ
  currency : String
  description : String
  customerName : Option String
  customerEmail : Option String
  customerContact : Option String
  notes : List (String × String)

/-- A call of a method; an order comes with the `uuid4` its receipt may be made of. -/
inductive ClientCall where
  | createOrder (req : RazorpayOrderRequest) (uuidHex : String)
  | fetchOrder (orderId : String)
  | fetchPayment (paymentId : String)
  | capturePayment (paymentId : String) (amount : ℤ) (currency : String)
  | createRefund (req : RazorpayRefundRequest)
  | fetchRefund (refundId : String)
  | createPaymentLink (req : RazorpayPaymentLinkRequest)
  | fetchPaymentLink (linkId : String)
  | cancelPaymentLink (linkId : String)

def notesObject (notes : List (String × String)) : Json :=
  .obj (notes.map fun note => (note.1, .str note.2))

/-- `text or ""`. -/
def orEmpty (text : Option String) : String := text.getD ""

/-- `if text`. -/
def given (text : Option String) : Bool := orEmpty text ≠ ""

/-- `req.receipt or f"rcpt_{uuid.uuid4().hex[:8]}"`. -/
def receiptKey (req : RazorpayOrderRequest) (uuidHex : String) : String :=
  if given req.receipt then orEmpty req.receipt
  else "rcpt_" ++ String.ofList (uuidHex.toList.take 8)

def orderPayload (req : RazorpayOrderRequest) (uuidHex : String) : Dict :=
  [("amount", .int req.amount), ("currency", .str req.currency),
    ("receipt", .str (receiptKey req uuidHex)), ("notes", notesObject req.notes),
    ("partial_payment", .bool req.partialPayment)]

def refundPayload (req : RazorpayRefundRequest) : Dict :=
  [("notes", notesObject req.notes), ("speed", .str req.speed)] ++
    match req.amount with
    | none => []
    | some amount => [("amount", .int amount)]

def paymentLinkPayload (req : RazorpayPaymentLinkRequest) : Dict :=
  [("amount", .int req.amount), ("currency", .str req.currency),
    ("description", .str req.description), ("notes", notesObject req.notes)] ++
    if given req.customerName || given req.customerEmail || given req.customerContact then
      [("customer", .obj [("name", .str (orEmpty req.customerName)),
        ("email", .str (orEmpty req.customerEmail)),
        ("contact", .str (orEmpty req.customerContact))])]
    else []

/-- The arguments a method hands on, `max_retries` being the default. -/
def ClientCall.retryCall : ClientCall → RetryCall
  | .createOrder req uuidHex => ⟨"POST", "/orders", some (orderPayload req uuidHex), false, 3⟩
  | .fetchOrder orderId => ⟨"GET", s!"/orders/{orderId}", none, true, 3⟩
  | .fetchPayment paymentId => ⟨"GET", s!"/payments/{paymentId}", none, true, 3⟩
  | .capturePayment paymentId amount currency =>
    ⟨"POST", s!"/payments/{paymentId}/capture",
      some [("amount", .int amount), ("currency", .str currency)], false, 3⟩
  | .createRefund req =>
    ⟨"POST", s!"/payments/{req.paymentId}/refund", some (refundPayload req), false, 3⟩
  | .fetchRefund refundId => ⟨"GET", s!"/refunds/{refundId}", none, true, 3⟩
  | .createPaymentLink req => ⟨"POST", "/payment_links", some (paymentLinkPayload req), false, 3⟩
  | .fetchPaymentLink linkId => ⟨"GET", s!"/payment_links/{linkId}", none, true, 3⟩
  | .cancelPaymentLink linkId => ⟨"POST", s!"/payment_links/{linkId}/cancel", none, true, 3⟩

/-- What a method sends, which is nothing in mock mode. -/
def ClientCall.sends (env : Platform) (client : Client) (exchange : ℕ → HttpReply)
    (call : ClientCall) : List HttpRequest :=
  if client.mockMode then [] else (requestWithRetry env client call.retryCall exchange).requests

/-! ### What a call does -/

/-- A timeout or a network error. -/
def HttpReply.ambiguous : HttpReply → Bool
  | .timeoutException _ => true
  | .networkError _ => true
  | _ => false

/-- The same exchange without its status. -/
def HttpReply.outcome : HttpReply → HttpOutcome
  | .response _ data => .response data
  | .timeoutException text => .timeoutException text
  | .networkError text => .networkError text
  | .otherException text => .otherException text

/-- What became of the exchange a call ended with. -/
def ended (reply : HttpReply) : Except String Dict := (tryExchange reply).mapError HttpxError.text

section Rounds

variable {request : HttpRequest} {isIdempotent : Bool} {attempts : ℕ} {exchange : ℕ → HttpReply}
  {exhausted : String}

/-- Only a timeout or a network error is tried again. -/
theorem goesOn_iff {reply : HttpReply} {exc : HttpxError} {attempt : ℕ}
    (h : tryExchange reply = .error exc) :
    goesOn isIdempotent attempt attempts exc = true ↔
      isIdempotent = true ∧ attempt < attempts ∧ reply.ambiguous = true := by
  cases reply with
  | response statusCode data => cases h
  | timeoutException text =>
    cases h
    simp [goesOn, HttpxError.isNetworkOrTimeout, HttpReply.ambiguous]
  | networkError text =>
    cases h
    simp [goesOn, HttpxError.isNetworkOrTimeout, HttpReply.ambiguous]
  | otherException text =>
    cases h
    simp [goesOn, HttpxError.isNetworkOrTimeout, HttpxError.isRetryableStatus, HttpReply.ambiguous]

/-- **How the rounds end.**  All but the last of them were ambiguous, and if the last one was too it
was the last there was. -/
structure Ending (isIdempotent : Bool) (request : HttpRequest) (exchange : ℕ → HttpReply)
    (left attempt : ℕ) (sent : Sent) (n : ℕ) : Prop where
  within : n < left
  requests : sent.requests = List.replicate (n + 1) request
  before : ∀ j < n, isIdempotent = true ∧ (exchange (attempt + j)).ambiguous = true
  result : sent.result = ended (exchange (attempt + n))
  last : isIdempotent = true → (exchange (attempt + n)).ambiguous = true → n + 1 = left

theorem rounds_ending {left attempt : ℕ} (hleft : left ≠ 0) (h : attempt + left = attempts + 1) :
    ∃ n, Ending isIdempotent request exchange left attempt
      (rounds request isIdempotent attempts exchange exhausted left attempt) n := by
  induction left generalizing attempt with
  | zero => exact absurd rfl hleft
  | succ left ih =>
    unfold rounds
    cases htry : tryExchange (exchange attempt) with
    | ok data =>
      refine ⟨0, Nat.succ_pos left, rfl, fun j hj => absurd hj (Nat.not_lt_zero j), ?_, ?_⟩
      · show Except.ok data = ended (exchange attempt)
        rw [ended, htry]
        rfl
      · intro _ hambiguous
        cases hreply : exchange attempt with
        | response statusCode data => simp [hreply, HttpReply.ambiguous] at hambiguous
        | timeoutException text => simp [hreply, tryExchange] at htry
        | networkError text => simp [hreply, tryExchange] at htry
        | otherException text => simp [hreply, tryExchange] at htry
    | error exc =>
      dsimp only
      by_cases hgoes : goesOn isIdempotent attempt attempts exc = true
      · rw [if_pos hgoes]
        obtain ⟨hidempotent, hattempt, hambiguous⟩ := (goesOn_iff htry).mp hgoes
        obtain ⟨n, hn⟩ := @ih (attempt + 1) (by omega) (by omega)
        have hshift : attempt + 1 + n = attempt + (n + 1) := by omega
        refine ⟨n + 1, Nat.succ_lt_succ hn.within, congrArg (request :: ·) hn.requests, ?_, ?_, ?_⟩
        · intro j hj
          cases j with
          | zero => exact ⟨hidempotent, hambiguous⟩
          | succ j =>
            have hj := hn.before j (Nat.lt_of_succ_lt_succ hj)
            rwa [show attempt + 1 + j = attempt + (j + 1) by omega] at hj
        · rw [← hshift]
          exact hn.result
        · rw [← hshift]
          exact fun hi ha => congrArg (· + 1) (hn.last hi ha)
      · rw [if_neg hgoes]
        refine ⟨0, Nat.succ_pos left, rfl, fun j hj => absurd hj (Nat.not_lt_zero j), ?_, ?_⟩
        · show Except.error exc.text = ended (exchange attempt)
          rw [ended, htry]
          rfl
        · intro hidempotent hambiguous
          have hlast : ¬ attempt < attempts := fun hlt =>
            hgoes ((goesOn_iff htry).mpr ⟨hidempotent, hlt, hambiguous⟩)
          omega

/-- Forgetting the statuses, these are the rounds of the dispatches. -/
theorem rounds_outcome {left attempt : ℕ} (h : attempt + left = attempts + 1) :
    (rounds request isIdempotent attempts exchange exhausted left attempt).result =
      GatewayFailures.requestRounds isIdempotent (fun k => (exchange k).outcome) exhausted left
        attempt := by
  induction left generalizing attempt with
  | zero => rfl
  | succ left ih =>
    have hcontinue : ∀ reply exc, tryExchange reply = .error exc → reply.ambiguous = true →
        (goesOn isIdempotent attempt attempts exc = true ↔ isIdempotent = true ∧ left ≠ 0) := by
      intro reply exc htry hambiguous
      rw [goesOn_iff htry]
      exact ⟨fun hgoes => ⟨hgoes.1, by omega⟩, fun hgoes => ⟨hgoes.1, by omega, hambiguous⟩⟩
    unfold rounds GatewayFailures.requestRounds
    cases hreply : exchange attempt with
    | response statusCode data => rfl
    | timeoutException text =>
      simp only [tryExchange, HttpReply.outcome, hcontinue (.timeoutException text) _ rfl rfl]
      by_cases hgoes : isIdempotent = true ∧ left ≠ 0
      · rw [if_pos hgoes, if_pos hgoes]
        exact ih (by omega)
      · rw [if_neg hgoes, if_neg hgoes]
        rfl
    | networkError text =>
      simp only [tryExchange, HttpReply.outcome, hcontinue (.networkError text) _ rfl rfl]
      by_cases hgoes : isIdempotent = true ∧ left ≠ 0
      · rw [if_pos hgoes, if_pos hgoes]
        exact ih (by omega)
      · rw [if_neg hgoes, if_neg hgoes]
        rfl
    | otherException text =>
      have htry : tryExchange (.otherException text) = .error (.other text) := rfl
      have hstays : ¬ goesOn isIdempotent attempt attempts (.other text) = true := fun hgoes =>
        Bool.false_ne_true ((goesOn_iff htry).mp hgoes).2.2
      simp only [tryExchange, HttpReply.outcome, if_neg hstays]
      rfl

end Rounds

/-- **What a dispatch is answered** is how its call ends here. -/
theorem requestWithRetry_outcome (env : Platform) (client : Client) (call : RetryCall)
    (exchange : ℕ → HttpReply) :
    (requestWithRetry env client call exchange).result =
      GatewayFailures.requestWithRetry call.method call.path call.isIdempotent call.maxRetries
        (fun k => (exchange k).outcome) :=
  rounds_outcome (Nat.add_comm 1 call.attempts)

/-! ### The discipline -/

def successStatus (statusCode : ℕ) : Prop := 200 ≤ statusCode ∧ statusCode < 300

/-- A timeout, a network error, or a status that is worth another attempt. -/
def HttpReply.Retryable : HttpReply → Prop
  | .response statusCode _ => statusCode ∈ [429, 500, 502, 503, 504]
  | .timeoutException _ => True
  | .networkError _ => True
  | .otherException _ => False

/-- The reply to the last request, if one was sent. -/
def Sent.lastReply (sent : Sent) (exchange : ℕ → HttpReply) : Option HttpReply :=
  if sent.requests = [] then none else some (exchange sent.requests.length)

/-- **The discipline of an idempotent call**: there are at most `max_retries` requests, an attempt
is followed by another one exactly if its reply is worth it, and the body of a success is returned.
Anything else is raised. -/
structure Disciplined (call : RetryCall) (exchange : ℕ → HttpReply) (sent : Sent) : Prop where
  bounded : sent.requests.length ≤ call.maxRetries
  retries : ∀ k, 1 ≤ k → k < call.maxRetries → k ≤ sent.requests.length →
    (k < sent.requests.length ↔ (exchange k).Retryable)
  returned : ∀ data, sent.result = .ok data ↔ ∃ statusCode body,
    sent.lastReply exchange = some (.response statusCode body) ∧ successStatus statusCode ∧
      data = responseData body

/-- The first response, if only timeouts and network errors come before it, is a success. -/
def FirstResponseSucceeds (call : RetryCall) (exchange : ℕ → HttpReply) : Prop :=
  ∀ k statusCode body, 1 ≤ k → k ≤ call.maxRetries →
    (∀ j, 1 ≤ j → j < k → (exchange j).ambiguous = true) →
    exchange k = .response statusCode body → successStatus statusCode

/-- No status that is worth another attempt is a success. -/
theorem not_retryable_of_success {statusCode : ℕ} {body : Json} (h : successStatus statusCode) :
    ¬ (HttpReply.response statusCode body).Retryable := by
  intro hretryable
  have hlarge : ∀ n ∈ [429, 500, 502, 503, 504], 300 ≤ n := by decide
  exact absurd (hlarge statusCode hretryable) (not_le.mpr h.2)

theorem retryable_of_ambiguous {reply : HttpReply} (h : reply.ambiguous = true) :
    reply.Retryable := by
  cases reply with
  | response statusCode body => cases h
  | timeoutException text => trivial
  | networkError text => trivial
  | otherException text => cases h

/-- Only a response ends a call with data. -/
theorem ended_eq_ok {reply : HttpReply} {data : Dict} :
    ended reply = .ok data ↔
      ∃ statusCode body, reply = .response statusCode body ∧ data = responseData body := by
  cases reply with
  | response statusCode body =>
    constructor
    · intro h
      exact ⟨statusCode, body, rfl, (Except.ok.inj h).symm⟩
    · rintro ⟨statusCode', body', h, rfl⟩
      cases h
      rfl
  | timeoutException text => exact ⟨fun h => (nomatch h), fun ⟨_, _, h, _⟩ => (nomatch h)⟩
  | networkError text => exact ⟨fun h => (nomatch h), fun ⟨_, _, h, _⟩ => (nomatch h)⟩
  | otherException text => exact ⟨fun h => (nomatch h), fun ⟨_, _, h, _⟩ => (nomatch h)⟩

section Discipline

variable {request : HttpRequest} {exchange : ℕ → HttpReply} {call : RetryCall} {sent : Sent} {n : ℕ}

theorem Ending.length {isIdempotent : Bool} {left attempt : ℕ}
    (h : Ending isIdempotent request exchange left attempt sent n) :
    sent.requests.length = n + 1 := by
  rw [h.requests, List.length_replicate]

theorem Ending.lastReply {isIdempotent : Bool} {left : ℕ}
    (h : Ending isIdempotent request exchange left 1 sent n) :
    sent.lastReply exchange = some (exchange (1 + n)) := by
  have hne : sent.requests ≠ [] := fun hnil => by
    have hlength := h.length
    rw [hnil] at hlength
    cases hlength
  rw [Sent.lastReply, if_neg hne, h.length, Nat.add_comm]

/-- The first response among the attempts is the reply the call ends with. -/
theorem Ending.index_of_response (h : Ending true request exchange call.maxRetries 1 sent n)
    {k statusCode : ℕ} {body : Json} (hk : 1 ≤ k) (hle : k ≤ call.maxRetries)
    (hbefore : ∀ j, 1 ≤ j → j < k → (exchange j).ambiguous = true)
    (hreply : exchange k = .response statusCode body) : k = 1 + n := by
  have hnot : (exchange k).ambiguous = false := by rw [hreply]; rfl
  rcases Nat.lt_trichotomy k (1 + n) with hlt | heq | hgt
  · have hambiguous := (h.before (k - 1) (by omega)).2
    rw [show 1 + (k - 1) = k by omega, hnot] at hambiguous
    cases hambiguous
  · exact heq
  · have hlast := h.last rfl (hbefore (1 + n) (by omega) hgt)
    omega

/-- **A call that sent something keeps the discipline exactly if the first response succeeds.** -/
theorem Ending.disciplined_iff (h : Ending true request exchange call.maxRetries 1 sent n) :
    Disciplined call exchange sent ↔ FirstResponseSucceeds call exchange := by
  constructor
  · intro hd k statusCode body hk hle hbefore hreply
    have hindex := h.index_of_response hk hle hbefore hreply
    have hresult : sent.result = .ok (responseData body) := by
      rw [h.result, ← hindex, hreply]
      rfl
    obtain ⟨statusCode', body', hlast, hsuccess, -⟩ := (hd.returned _).mp hresult
    rw [h.lastReply, ← hindex, hreply] at hlast
    cases hlast
    exact hsuccess
  · intro hfirst
    have hsuccess : ∀ statusCode body, exchange (1 + n) = .response statusCode body →
        successStatus statusCode := fun statusCode body =>
      hfirst (1 + n) statusCode body (by omega) (by have := h.within; omega) fun j hj hlt => by
        have hambiguous := (h.before (j - 1) (by omega)).2
        rwa [show 1 + (j - 1) = j by omega] at hambiguous
    refine ⟨h.length ▸ h.within, fun k hk hmax hle => ?_, fun data => ?_⟩
    · rw [h.length] at hle ⊢
      constructor
      · intro hlt
        have hambiguous := (h.before (k - 1) (by omega)).2
        rw [show 1 + (k - 1) = k by omega] at hambiguous
        exact retryable_of_ambiguous hambiguous
      · intro hretryable
        -- otherwise it is the last attempt, whose reply was worth no other
        by_contra hnot
        obtain rfl : k = 1 + n := by omega
        cases hreply : exchange (1 + n) with
        | response statusCode body =>
          rw [hreply] at hretryable
          exact not_retryable_of_success (hsuccess _ _ hreply) hretryable
        | timeoutException text =>
          have hlast := h.last rfl (by rw [hreply]; rfl)
          omega
        | networkError text =>
          have hlast := h.last rfl (by rw [hreply]; rfl)
          omega
        | otherException text =>
          rw [hreply] at hretryable
          exact hretryable
    · rw [h.result, ended_eq_ok, h.lastReply]
      constructor
      · rintro ⟨statusCode, body, hreply, rfl⟩
        exact ⟨statusCode, body, congrArg some hreply, hsuccess _ _ hreply, rfl⟩
      · rintro ⟨statusCode, body, hreply, -, rfl⟩
        exact ⟨statusCode, body, Option.some.inj hreply, rfl⟩

end Discipline

section Calls

variable {env : Platform} {client : Client} {exchange : ℕ → HttpReply} {call : RetryCall}

/-- **An idempotent call.** -/
theorem disciplined_iff (h : call.isIdempotent = true) :
    Disciplined call exchange (requestWithRetry env client call exchange) ↔
      FirstResponseSucceeds call exchange := by
  have hattempts : call.attempts = call.maxRetries := if_pos h
  unfold requestWithRetry
  rw [h, hattempts]
  by_cases hnone : call.maxRetries = 0
  · -- nothing is sent
    rw [hnone]
    refine ⟨fun _ k _ _ hk hle => by omega, fun _ => ⟨by simp [rounds], fun k hk hmax => by omega,
      fun data => ⟨fun hok => (nomatch hok), ?_⟩⟩⟩
    rintro ⟨statusCode, body, hlast, -⟩
    cases hlast
  · obtain ⟨n, hn⟩ := @rounds_ending (call.request env client) true call.maxRetries exchange
      s!"Failed all {call.maxRetries} attempts for {call.method} {call.path}" call.maxRetries 1 hnone
      (Nat.add_comm 1 call.maxRetries)
    exact hn.disciplined_iff

/-- A call that is not idempotent sends one request. -/
theorem requests_of_not_idempotent (h : call.isIdempotent = false) :
    (requestWithRetry env client call exchange).requests.length = 1 := by
  have hattempts : call.attempts = 1 := if_neg (by rw [h]; decide)
  unfold requestWithRetry
  rw [h, hattempts]
  obtain ⟨n, hn⟩ := @rounds_ending (call.request env client) false 1 exchange
    s!"Failed all {1} attempts for {call.method} {call.path}" 1 1 one_ne_zero rfl
  have hone := hn.within
  have hlength := hn.length
  omega

/-- An idempotent call with attempts left sends another request exactly after an ambiguous reply. -/
theorem requests_of_idempotent (h : call.isIdempotent = true) (hmax : 2 ≤ call.maxRetries) :
    (requestWithRetry env client call exchange).requests.length ≤ 1 ↔
      ¬ (exchange 1).ambiguous = true := by
  have hattempts : call.attempts = call.maxRetries := if_pos h
  unfold requestWithRetry
  rw [h, hattempts]
  obtain ⟨n, hn⟩ := @rounds_ending (call.request env client) true call.maxRetries exchange
    s!"Failed all {call.maxRetries} attempts for {call.method} {call.path}" call.maxRetries 1
    (by omega) (Nat.add_comm 1 call.maxRetries)
  rw [hn.length]
  constructor
  · intro hle hambiguous
    obtain rfl : n = 0 := by omega
    have hlast := hn.last rfl hambiguous
    omega
  · intro hnot
    by_contra hlt
    exact hnot (hn.before 0 (by omega)).2

end Calls

/-- A method that issues a `POST`. -/
def ClientCall.Mutates (call : ClientCall) : Prop := call.retryCall.method = "POST"

/-- **The client keeps its discipline exactly so far**: an idempotent call while the first response
succeeds, and a mutating method unless a payment link is cancelled and the first attempt times out
or does not get through. -/
theorem retry_discipline_iff (env : Platform) (client : Client) (exchange : ℕ → HttpReply) :
    (∀ call : RetryCall, call.isIdempotent = true →
      (Disciplined call exchange (requestWithRetry env client call exchange) ↔
        FirstResponseSucceeds call exchange)) ∧
      ∀ call : ClientCall, call.Mutates →
        ((call.sends env client exchange).length ≤ 1 ↔
          ¬ (client.mockMode = false ∧ (∃ linkId, call = .cancelPaymentLink linkId) ∧
            (exchange 1).ambiguous = true)) := by
  refine ⟨fun call h => disciplined_iff h, fun call hmutates => ?_⟩
  unfold ClientCall.sends
  cases hmock : client.mockMode with
  | true => simp
  | false =>
    rw [if_neg Bool.false_ne_true]
    have honce : call.retryCall.isIdempotent = false →
        (requestWithRetry env client call.retryCall exchange).requests.length ≤ 1 :=
      fun h => (requests_of_not_idempotent h).le
    have hget : ¬ "GET" = "POST" := by decide
    cases call with
    | createOrder req uuidHex => simp [honce rfl]
    | capturePayment paymentId amount currency => simp [honce rfl]
    | createRefund req => simp [honce rfl]
    | createPaymentLink req => simp [honce rfl]
    | cancelPaymentLink linkId =>
      have hmore : 2 ≤ (ClientCall.cancelPaymentLink linkId).retryCall.maxRetries :=
        Nat.le_succ 2
      rw [requests_of_idempotent rfl hmore]
      simp
    | fetchOrder orderId => exact absurd hmutates hget
    | fetchPayment paymentId => exact absurd hmutates hget
    | fetchRefund refundId => exact absurd hmutates hget
    | fetchPaymentLink linkId => exact absurd hmutates hget

namespace Sample

def live : Client := ⟨"https://api.razorpay.com/v1", false⟩

/-- A timeout, and then an order. -/
def slow : ℕ → HttpReply
  | 1 => .timeoutException "timed out"
  | _ => .response 200 (.obj [("id", .str "order_1")])

/-- The gateway is down. -/
def down (_ : ℕ) : HttpReply := .response 500 (.obj [("error", .str "SERVER_ERROR")])

/-- Nothing gets through. -/
def silent (_ : ℕ) : HttpReply := .timeoutException "timed out"

end Sample

open Sample ControlPlane.Sample in
/-- The order is fetched at the second attempt, and a capture whose first attempt timed out is not
sent again. -/
theorem retry_discipline_slow :
    Disciplined (ClientCall.fetchOrder "order_1").retryCall slow
        (requestWithRetry platform live (ClientCall.fetchOrder "order_1").retryCall slow) ∧
      ((ClientCall.capturePayment "pay_1" 50000 "INR").sends platform live slow).length ≤ 1 := by
  have h := retry_discipline_iff platform live slow
  refine ⟨(h.1 _ rfl).mpr ?_,
    (h.2 (.capturePayment "pay_1" 50000 "INR") rfl).mpr ?_⟩
  · intro k statusCode body hk _ _ hreply
    unfold slow at hreply
    split at hreply
    · cases hreply
    · cases hreply
      exact ⟨le_refl 200, by decide⟩
  · rintro ⟨-, ⟨linkId, hcancel⟩, -⟩
    cases hcancel

open Sample ControlPlane.Sample in
/-- **The body of a 500 is returned as data**, after one attempt, and the cancelling of a payment
link is sent three times. -/
theorem not_retry_discipline :
    ¬ Disciplined (ClientCall.fetchOrder "order_1").retryCall down
        (requestWithRetry platform live (ClientCall.fetchOrder "order_1").retryCall down) ∧
      (ClientCall.cancelPaymentLink "plink_1").Mutates ∧
      ((ClientCall.cancelPaymentLink "plink_1").sends platform live silent).length = 3 := by
  refine ⟨fun h => ?_, rfl, by decide +kernel⟩
  obtain ⟨statusCode, body, hlast, hsuccess, -⟩ :=
    (h.returned [("error", .str "SERVER_ERROR")]).mp rfl
  cases hlast
  exact absurd hsuccess.2 (by decide)

end MandatePlane.GatewayRetries

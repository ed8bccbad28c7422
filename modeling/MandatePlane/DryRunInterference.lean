import MandatePlane.PolicyDryRun
import MandatePlane.RateLimiter

/-!
# Do dry runs interfere with live requests?

A dry run of the policy writes nothing to the database, but the engine it asks ends with
the rate limit, and asking the limiter takes a place in the agent's window.  A live
request that comes while such a place is still held can be refused for it.

Live requests and dry runs are steps of one machine over the store and the limiter; its
log has the answers to the live requests.  The world also remembers when the dry runs of
each agent reached the limiter, for the statements.
-/

namespace MandatePlane.DryRunInterference

open DomainModel KeyedTable LabelledRun HostEnvironment CallerAuth PolicyEngine OperationRoutes
open PrunedLog RateLimiter PolicyDryRun

/-! ### The machine -/

structure World where
  store : Store
  limiter : Limiter
  dryClocks : String → List ℤ

inductive Call where
  | live (payload : OperationCreate) (headers : CallerHeaders) (inputs : RequestInputs)
      (clock : ℤ) (redis : RedisCall)
  | dry (req : PolicyTestRequest) (now clock : ℤ) (redis : RedisCall)

def Call.isLive : Call → Bool
  | .live _ _ _ _ _ => true
  | .dry _ _ _ _ => false

/-- The answer to a live request: the operation with its decision and status, the store it
commits, what it did. -/
abbrev Answer := Except Refusal (Committed FinancialOperation)

/-- Whether a request gets as far as the evaluation of the policy. -/
def policyReached (env : Platform) (settings : Settings) (payload : OperationCreate)
    (headers : CallerHeaders) (inputs : RequestInputs) (s : Store) : Bool :=
  match authenticateRequest env settings payload headers s.agents with
  | .error _ => false
  | .ok _ =>
    match s.operationByIdempotencyKey payload.idempotencyKey with
    | .ok none => (s.mandates.find? payload.mandateId).isSome &&
        (s.agents.find? payload.agentId).isSome &&
        (s.insertOperation (newOperation env payload inputs)).isSome
    | _ => false

/-- Whether a dry run gets past the hierarchical rule, which may climb for ever. -/
def limiterReached (req : PolicyTestRequest) (s : Store) : Bool :=
  match s.agents.find? req.agentId, s.mandates.find? req.mandateId with
  | some _, some mandate =>
    match hierarchicalDelegationRule (some s.mandates) mandate with
    | .ok _ => true
    | .error _ => false
  | _, _ => false

/-- A live request with what the limiter answers it. -/
def serve (env : Platform) (settings : Settings) (host : Rounding) (payload : OperationCreate)
    (headers : CallerHeaders) (inputs : RequestInputs) (clock : ℤ) (redis : RedisCall)
    (w : World) : World × Answer :=
  let checked := checkRateLimit env settings host redis payload.agentId clock true w.limiter
  let answer := requestFinancialOperation env settings payload headers
    { inputs with rateLimit := checked.1 } w.store
  ({ w with
      store := (ControlPlane.outcome w.store answer).1
      limiter := if policyReached env settings payload headers inputs w.store then checked.2
        else w.limiter }, answer)

/-- What a dry run leaves: nothing but its place in the limiter. -/
def rehearse (env : Platform) (settings : Settings) (host : Rounding) (req : PolicyTestRequest)
    (clock : ℤ) (redis : RedisCall) (w : World) : World :=
  if limiterReached req w.store then
    { w with
      limiter := (checkRateLimit env settings host redis req.agentId clock false w.limiter).2
      dryClocks := Function.update w.dryClocks req.agentId (clock :: w.dryClocks req.agentId) }
  else w

/-- Live requests and dry runs, one after the other. -/
def policyPlane (env : Platform) (settings : Settings) (host : Rounding) :
    Machine World Call Answer where
  next w call := match call with
    | .live payload headers inputs clock redis =>
      (serve env settings host payload headers inputs clock redis w).1
    | .dry req _ clock redis => rehearse env settings host req clock redis w
  log w call := match call with
    | .live payload headers inputs clock redis =>
      [(serve env settings host payload headers inputs clock redis w).2]
    | .dry _ _ _ _ => []

/-! ### Where dry runs are not counted -/

/-- **Uncounted**: a live request that is evaluated comes no earlier than the dry runs of its agent
before it, and reads no entry that one of them left in the limiter. -/
def Uncounted (env : Platform) (settings : Settings) (host : Rounding) (w : World) : Call → Prop
  | .live payload headers inputs clock redis =>
    policyReached env settings payload headers inputs w.store = true →
      (∀ t ∈ w.dryClocks payload.agentId, t ≤ clock) ∧
        OnlyLive env settings host redis payload.agentId clock w.limiter
  | .dry _ _ _ _ => True

/-- The cutoffs that come no earlier than those of the dry runs. -/
def PastDryRuns (dryClocks : String → List ℤ) (agentId : String) (c : ℤ) : Prop :=
  ∀ t ∈ dryClocks agentId, t - window ≤ c

/-- **The same but for dry runs**: one store, and limiters that agree. -/
structure SameLive (w w₀ : World) : Prop where
  store : w.store = w₀.store
  limiter : Agrees (PastDryRuns w.dryClocks) w.limiter w₀.limiter

section Runs

variable {env : Platform} {settings : Settings} {host : Rounding} {w w₀ : World}

/-- A request that is not evaluated does not depend on the limiter. -/
theorem request_of_not_reached {payload : OperationCreate} {headers : CallerHeaders}
    {inputs : RequestInputs} {s : Store}
    (h : policyReached env settings payload headers inputs s = false) (r r' : RateLimitResult) :
    requestFinancialOperation env settings payload headers { inputs with rateLimit := r } s =
      requestFinancialOperation env settings payload headers { inputs with rateLimit := r' } s := by
  unfold policyReached at h
  unfold requestFinancialOperation
  cases hauth : authenticateRequest env settings payload headers s.agents with
  | error refusal => rfl
  | ok _ =>
    rw [hauth] at h
    dsimp only at h
    cases hkey : s.operationByIdempotencyKey payload.idempotencyKey with
    | error refusal => rfl
    | ok existing =>
      cases existing with
      | some op => rfl
      | none =>
        rw [hkey] at h
        dsimp only at h
        cases hmandate : s.mandates.find? payload.mandateId with
        | none => rfl
        | some mandate =>
          cases hagent : s.agents.find? payload.agentId with
          | none => rfl
          | some agent =>
            have hinsert : s.insertOperation (newOperation env payload inputs) = none := by
              rw [hmandate, hagent] at h
              simpa using h
            have hnew (r : RateLimitResult) :
                s.insertOperation (newOperation env payload { inputs with rateLimit := r }) =
                  none := hinsert
            simp only [bind, Except.bind, orRefuse, hnew]

/-- **A live request that reads no dry run's entry** is answered in both worlds alike. -/
theorem SameLive.serve (h : SameLive w w₀) {payload : OperationCreate} {headers : CallerHeaders}
    {inputs : RequestInputs} {clock : ℤ} {redis : RedisCall}
    (huncounted : Uncounted env settings host w (.live payload headers inputs clock redis)) :
    (serve env settings host payload headers inputs clock redis w).2 =
        (serve env settings host payload headers inputs clock redis w₀).2 ∧
      SameLive (serve env settings host payload headers inputs clock redis w).1
        (serve env settings host payload headers inputs clock redis w₀).1 := by
  obtain ⟨s, l, clocks⟩ := w
  obtain ⟨s₀, l₀, clocks₀⟩ := w₀
  obtain rfl : s = s₀ := h.store
  have hlimiter : Agrees (PastDryRuns clocks) l l₀ := h.limiter
  unfold DryRunInterference.serve
  dsimp only
  cases hreached : policyReached env settings payload headers inputs s with
  | false =>
    have hanswer := request_of_not_reached hreached
      (checkRateLimit env settings host redis payload.agentId clock true l).1
      (checkRateLimit env settings host redis payload.agentId clock true l₀).1
    rw [hanswer]
    exact ⟨rfl, rfl, hlimiter⟩
  | true =>
    obtain ⟨hclocks, honly⟩ := huncounted hreached
    have hpast : PastDryRuns clocks payload.agentId (clock - window) := by
      intro t ht
      have hle := hclocks t ht
      omega
    obtain ⟨hresult, hagrees⟩ := checkRateLimit_live hlimiter hpast honly
    rw [hresult]
    exact ⟨rfl, rfl, hagrees⟩

/-- A dry run in one of the worlds leaves them the same to live requests. -/
theorem SameLive.rehearse (h : SameLive w w₀) {req : PolicyTestRequest} {clock : ℤ}
    {redis : RedisCall} : SameLive (rehearse env settings host req clock redis w) w₀ := by
  unfold DryRunInterference.rehearse
  split
  · refine ⟨h.store, checkRateLimit_dry h.limiter (fun a c hc => ?_) fun c hc => ?_⟩
    · intro t ht
      refine hc t ?_
      show t ∈ Function.update w.dryClocks req.agentId (clock :: w.dryClocks req.agentId) a
      by_cases ha : a = req.agentId
      · subst ha
        rw [Function.update_self]
        exact List.mem_cons_of_mem _ ht
      · rw [Function.update_of_ne ha]
        exact ht
    · refine hc clock ?_
      show clock ∈ Function.update w.dryClocks req.agentId (clock :: w.dryClocks req.agentId) _
      rw [Function.update_self]
      exact List.mem_cons_self
  · exact h

/-- **A history and the same history without its dry runs** answer the live requests alike, as long
as none of them reads a dry run's entry. -/
theorem SameLive.run (h : SameLive w w₀) {calls : List Call}
    (huncounted : (policyPlane env settings host).Along (Uncounted env settings host) w calls) :
    (policyPlane env settings host).trace w calls =
        (policyPlane env settings host).trace w₀ (calls.filter Call.isLive) ∧
      SameLive ((policyPlane env settings host).run w calls)
        ((policyPlane env settings host).run w₀ (calls.filter Call.isLive)) := by
  induction calls generalizing w w₀ with
  | nil => exact ⟨rfl, h⟩
  | cons call calls ih =>
    obtain ⟨hcall, hcalls⟩ := huncounted
    cases call with
    | live payload headers inputs clock redis =>
      obtain ⟨hanswer, hsame⟩ := h.serve hcall
      obtain ⟨htrace, hrun⟩ := ih hsame hcalls
      refine ⟨?_, hrun⟩
      show [(DryRunInterference.serve env settings host payload headers inputs clock redis w).2] ++
          (policyPlane env settings host).trace _ calls =
        [(DryRunInterference.serve env settings host payload headers inputs clock redis w₀).2] ++
          (policyPlane env settings host).trace _ (calls.filter Call.isLive)
      rw [hanswer]
      exact congrArg _ htrace
    | dry req now clock redis => exact ih h.rehearse hcalls

end Runs

/-- **Dry runs do not interfere where they are not counted**: inserted into a history of live
requests, they change no answer and no effect of any of these, if no live request that is evaluated
comes earlier than a dry run of its agent before it or reads an entry of one in the limiter. -/
theorem dry_runs_do_not_interfere (env : Platform) (settings : Settings) (host : Rounding)
    (w : World) (calls : List Call)
    (h : (policyPlane env settings host).Along (Uncounted env settings host) w calls) :
    (policyPlane env settings host).trace w calls =
        (policyPlane env settings host).trace w (calls.filter Call.isLive) ∧
      ((policyPlane env settings host).run w calls).store =
        ((policyPlane env settings host).run w (calls.filter Call.isLive)).store := by
  have hsame : SameLive w w := ⟨rfl, fun _ => Agree.refl _ _ _ _, fun _ => Agree.refl _ _ _ _⟩
  obtain ⟨htrace, hrun⟩ := hsame.run h
  exact ⟨htrace, hrun.store⟩

/-! ### A full window -/

section Full

open ControlPlane Sample

def rounding : Rounding where
  seconds _ := .int 60
  text _ := "60.0"

/-- The agent of before, who has made 59 requests within the window or none. -/
def busy : World where
  store := store
  limiter := ⟨fun _ => List.replicate 59 ⟨5, true⟩, fun _ => []⟩
  dryClocks _ := []

def quiet : World := { busy with limiter := ⟨fun _ => [], fun _ => []⟩ }

def liveOrder (clock : ℤ) : Call :=
  .live orderA ⟨none, none, none⟩ (inputs "operation_A" "order_A" 600) clock .answers

def dryOrder (clock : ℤ) : Call := .dry (dryRunOf orderA) 10 clock .answers

/-- The statuses that the live requests of a history end with. -/
def statuses (w : World) (calls : List Call) : List (Option OperationStatus) :=
  ((policyPlane platform settings rounding).trace w calls).map fun answer =>
    answer.toOption.map fun committed => committed.value.status

theorem statuses_with_dry_run : statuses busy [dryOrder 6, liveOrder 7] = [some .policyRejected] := by
  decide +kernel

theorem statuses_without_dry_run : statuses busy [liveOrder 7] = [some .executing] := by
  decide +kernel

/-- A dry run takes the last place of the window, and the order that follows is rejected. -/
theorem dry_run_interferes :
    ¬ ∀ (w : World) (calls : List Call),
      (policyPlane platform settings rounding).trace w calls =
          (policyPlane platform settings rounding).trace w (calls.filter Call.isLive) ∧
        ((policyPlane platform settings rounding).run w calls).store =
          ((policyPlane platform settings rounding).run w (calls.filter Call.isLive)).store := by
  intro h
  have htrace := (h busy [dryOrder 6, liveOrder 7]).1
  have hstatuses : statuses busy [dryOrder 6, liveOrder 7] = statuses busy [liveOrder 7] :=
    congrArg (List.map _) htrace
  rw [statuses_with_dry_run, statuses_without_dry_run] at hstatuses
  cases hstatuses

/-- A minute after the dry run the order does not count it. -/
theorem uncounted_after_a_minute :
    (policyPlane platform settings rounding).Along (Uncounted platform settings rounding) quiet
      [dryOrder 6, liveOrder 60000006] := by
  have hentries : (rehearse platform settings rounding (dryRunOf orderA) 6 .answers quiet).limiter.windows
      "agt_1" = [⟨6, false⟩] := by decide +kernel
  have hclocks : (rehearse platform settings rounding (dryRunOf orderA) 6 .answers quiet).dryClocks
      "agt_1" = [6] := by decide +kernel
  refine ⟨trivial, fun _ => ⟨fun t ht => ?_, fun _ e he => ?_, fun hnone => ?_⟩, trivial⟩
  · have hmem : t ∈ [(6 : ℤ)] := by rw [← hclocks]; exact ht
    have h6 : t = 6 := by simpa using hmem
    omega
  · have hkept : inWindow 60000006 [⟨6, false⟩] = [] := by decide +kernel
    have hmem : e ∈ inWindow 60000006 [⟨6, false⟩] := by rw [← hentries]; exact he
    rw [hkept] at hmem
    cases hmem
  · have hanswered : (tryRedis rounding .answers "agt_1" 60000006 true [⟨6, false⟩]).1.isSome :=
      by decide +kernel
    have hlost : (tryRedis rounding .answers "agt_1" 60000006 true [⟨6, false⟩]).1 = none := by
      rw [← hentries]; exact hnone
    rw [hlost] at hanswered
    cases hanswered

/-- The order is answered as without the dry run. -/
theorem dry_run_a_minute_before :
    (policyPlane platform settings rounding).trace quiet [dryOrder 6, liveOrder 60000006] =
        (policyPlane platform settings rounding).trace quiet [liveOrder 60000006] ∧
      ((policyPlane platform settings rounding).run quiet [dryOrder 6, liveOrder 60000006]).store =
        ((policyPlane platform settings rounding).run quiet [liveOrder 60000006]).store :=
  dry_runs_do_not_interfere platform settings rounding quiet [dryOrder 6, liveOrder 60000006]
    uncounted_after_a_minute

end Full

end MandatePlane.DryRunInterference

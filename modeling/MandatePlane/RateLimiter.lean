import MandatePlane.PolicyEngine
import MandatePlane.PrunedLog
import Mathlib.Logic.Function.Basic

/-!
# The rate limiter

`check_rate_limit` with the costs and limits the policy rule calls it with: sixty
operations in sixty seconds, counted for each agent in a sorted set of Redis, and in a
queue of the process where Redis fails.  Times are microseconds.

An entry carries, besides its time, whether a live request made it.  The limiter does not
see this; the statements do.
-/

namespace MandatePlane.RateLimiter

open DomainModel JsonValue HostEnvironment PolicyEngine PrunedLog

structure Entry where
  time : ℤ
  live : Bool
  deriving DecidableEq

/-- The sorted sets of Redis and the fallback queues, each by agent. -/
structure Limiter where
  windows : String → List Entry
  buckets : String → List Entry

/-- How Redis takes one call: it answers, is not reached, applies the pipeline without an answer,
or fails at the revert of a count over the limit, before it or after it. -/
inductive RedisCall where
  | answers | unreachable | lost | revertFails | rangeFails
  deriving DecidableEq

/-- `max(0.1, round(seconds, 2))`, as a value and as a text. -/
structure Rounding where
  seconds : ℤ → Json
  text : ℤ → String

def defaultRateLimit : ℕ := 60

/-- The window in microseconds. -/
def window : ℤ := 60000000

/-- `int(seconds)`. -/
def wholeSeconds (t : ℤ) : ℤ := t.tdiv 1000000 * 1000000

/-- The entries of a sorted set that `zremrangebyscore` leaves. -/
def inWindow (now : ℤ) (entries : List Entry) : List Entry :=
  (sweep Entry.time).prune (now - window) entries

/-- The entries of a queue that popping from its front leaves. -/
def inBucket (now : ℤ) (entries : List Entry) : List Entry :=
  (unqueue Entry.time).prune (now - window) entries

def withinLimit (count : ℕ) : RateLimitResult where
  allowed := true
  limit := defaultRateLimit
  remaining := max 0 (defaultRateLimit - (count + 1))
  retryAfterSeconds := .float "0.0" false
  rejectionReason := none

/-- The answer over a full window: when its oldest entry will have left it. -/
def limitExceeded (host : Rounding) (agentId : String) (now : ℤ) (kept : List Entry) :
    RateLimitResult :=
  let resetTime := wholeSeconds (((kept.map Entry.time).min?.getD now) + window)
  { allowed := false
    limit := defaultRateLimit
    remaining := 0
    retryAfterSeconds := host.seconds (resetTime - now)
    rejectionReason := some (s!"Agent '{agentId}' rate limit exceeded " ++
      s!"({kept.length}/{defaultRateLimit} in 60s window). " ++
      s!"Retry after {host.text (resetTime - now)}s.") }

/-- The `try` block: the answer or its exception, and what is left of the sorted set. -/
def tryRedis (host : Rounding) (redis : RedisCall) (agentId : String) (now : ℤ) (live : Bool)
    (entries : List Entry) : Option RateLimitResult × List Entry :=
  let kept := inWindow now entries
  let added := kept ++ [⟨now, live⟩]
  match redis with
  | .unreachable => (none, entries)
  | .lost => (none, added)
  | .answers =>
    if kept.length + 1 > defaultRateLimit then (some (limitExceeded host agentId now kept), kept)
    else (some (withinLimit kept.length), added)
  | .revertFails =>
    if kept.length + 1 > defaultRateLimit then (none, added)
    else (some (withinLimit kept.length), added)
  | .rangeFails =>
    if kept.length + 1 > defaultRateLimit then (none, kept)
    else (some (withinLimit kept.length), added)

def limiterUnavailable : RateLimitResult where
  allowed := false
  limit := defaultRateLimit
  remaining := 0
  retryAfterSeconds := .float "1.0" true
  rejectionReason := some "Rate limiter unavailable; request denied safely."

/-- The `except` block outside production: the answer and what is left of the queue. -/
def localFallback (host : Rounding) (agentId : String) (now : ℤ) (live : Bool)
    (entries : List Entry) : RateLimitResult × List Entry :=
  let bucket := inBucket now entries
  if bucket.length + 1 > defaultRateLimit then
    let retryAfter := (bucket.head?.map fun e => e.time + window - now).getD window
    ({ allowed := false
       limit := defaultRateLimit
       remaining := 0
       retryAfterSeconds := host.seconds retryAfter
       rejectionReason := some s!"Agent '{agentId}' rate limit exceeded." }, bucket)
  else
    ({ allowed := true
       limit := defaultRateLimit
       remaining := defaultRateLimit - (bucket.length + 1)
       retryAfterSeconds := .float "0.0" false
       rejectionReason := none }, bucket ++ [⟨now, live⟩])

/-- `check_rate_limit(agent_id, cost=1)`. -/
def checkRateLimit (env : Platform) (settings : Settings) (host : Rounding) (redis : RedisCall)
    (agentId : String) (now : ℤ) (live : Bool) (l : Limiter) : RateLimitResult × Limiter :=
  let tried := tryRedis host redis agentId now live (l.windows agentId)
  let l := { l with windows := Function.update l.windows agentId tried.2 }
  match tried.1 with
  | some result => (result, l)
  | none =>
    if env.lower settings.environment = "production" then (limiterUnavailable, l)
    else
      let fallen := localFallback host agentId now live (l.buckets agentId)
      (fallen.1, { l with buckets := Function.update l.buckets agentId fallen.2 })

/-! ### Limiters that agree -/

/-- An entry that a live request made. -/
def Clean (e : Entry) : Prop := e.live = true

/-- The limiters agree for readers with the given cutoffs. -/
structure Agrees (D : String → ℤ → Prop) (l l₀ : Limiter) : Prop where
  windows : ∀ a, Agree (sweep Entry.time) (D a) Clean (l.windows a) (l₀.windows a)
  buckets : ∀ a, Agree (unqueue Entry.time) (D a) Clean (l.buckets a) (l₀.buckets a)

/-- Whether the call reads the count of the window. -/
def windowRead : RedisCall → Bool
  | .answers => true
  | .revertFails => true
  | .rangeFails => true
  | .unreachable => false
  | .lost => false

/-- **Unseen**: what the call reads of the agent's window, and of its queue where it falls back on
it, was made by live requests only. -/
structure OnlyLive (env : Platform) (settings : Settings) (host : Rounding) (redis : RedisCall)
    (agentId : String) (now : ℤ) (l : Limiter) : Prop where
  window : windowRead redis = true → ∀ e ∈ inWindow now (l.windows agentId), Clean e
  bucket : (tryRedis host redis agentId now true (l.windows agentId)).1 = none →
    env.lower settings.environment ≠ "production" →
    ∀ e ∈ inBucket now (l.buckets agentId), Clean e

section Agreement

variable {D D' : String → ℤ → Prop} {l l₀ : Limiter} {env : Platform} {settings : Settings}
  {host : Rounding} {redis : RedisCall} {agentId : String} {now : ℤ}

theorem Agrees.mono (h : Agrees D l l₀) (hD : ∀ a c, D' a c → D a c) : Agrees D' l l₀ :=
  ⟨fun a => (h.windows a).mono (hD a), fun a => (h.buckets a).mono (hD a)⟩

theorem Agrees.updateWindow (h : Agrees D l l₀) {entries entries₀ : List Entry}
    (hw : Agree (sweep Entry.time) (D agentId) Clean entries entries₀) :
    Agrees D { l with windows := Function.update l.windows agentId entries }
      { l₀ with windows := Function.update l₀.windows agentId entries₀ } := by
  refine ⟨fun a => ?_, h.buckets⟩
  by_cases ha : a = agentId
  · subst ha
    simpa using hw
  · simpa [Function.update_of_ne ha] using h.windows a

theorem Agrees.updateBucket (h : Agrees D l l₀) {entries entries₀ : List Entry}
    (hb : Agree (unqueue Entry.time) (D agentId) Clean entries entries₀) :
    Agrees D { l with buckets := Function.update l.buckets agentId entries }
      { l₀ with buckets := Function.update l₀.buckets agentId entries₀ } := by
  refine ⟨h.windows, fun a => ?_⟩
  by_cases ha : a = agentId
  · subst ha
    simpa using hb
  · simpa [Function.update_of_ne ha] using h.buckets a

/-- The `try` block in two limiters that agree: the same answer, and sets that agree. -/
theorem tryRedis_agree {entries entries₀ : List Entry} {D : ℤ → Prop}
    (h : Agree (sweep Entry.time) D Clean entries entries₀) (hnow : D (now - window))
    (hread : windowRead redis = true → ∀ e ∈ inWindow now entries, Clean e) :
    (tryRedis host redis agentId now true entries).1 =
        (tryRedis host redis agentId now true entries₀).1 ∧
      Agree (sweep Entry.time) D Clean (tryRedis host redis agentId now true entries).2
        (tryRedis host redis agentId now true entries₀).2 := by
  have hsame (hr : windowRead redis = true) : inWindow now entries = inWindow now entries₀ :=
    h _ hnow (hread hr)
  cases redis with
  | unreachable => exact ⟨rfl, h⟩
  | lost => exact ⟨rfl, (h.prune_both hnow).append_both ⟨now, true⟩⟩
  | answers =>
    simp only [tryRedis, hsame rfl, true_and]
    exact Agree.refl _ _ _ _
  | revertFails =>
    simp only [tryRedis, hsame rfl, true_and]
    exact Agree.refl _ _ _ _
  | rangeFails =>
    simp only [tryRedis, hsame rfl, true_and]
    exact Agree.refl _ _ _ _

/-- **A live call that reads live entries only** gets the same answer from limiters that agree, and
they agree after it. -/
theorem checkRateLimit_live (h : Agrees D l l₀) (hnow : D agentId (now - window))
    (hlive : OnlyLive env settings host redis agentId now l) :
    (checkRateLimit env settings host redis agentId now true l).1 =
        (checkRateLimit env settings host redis agentId now true l₀).1 ∧
      Agrees D (checkRateLimit env settings host redis agentId now true l).2
        (checkRateLimit env settings host redis agentId now true l₀).2 := by
  obtain ⟨hanswer, hentries⟩ := @tryRedis_agree host redis agentId now (l.windows agentId)
    (l₀.windows agentId) (D agentId) (h.windows agentId) hnow hlive.window
  have hwindows := h.updateWindow hentries
  unfold checkRateLimit
  dsimp only
  rw [← hanswer]
  cases htried : (tryRedis host redis agentId now true (l.windows agentId)).1 with
  | some result => exact ⟨rfl, hwindows⟩
  | none =>
    dsimp only
    by_cases hproduction : env.lower settings.environment = "production"
    · rw [if_pos hproduction, if_pos hproduction]
      exact ⟨rfl, hwindows⟩
    · rw [if_neg hproduction, if_neg hproduction]
      have hbucket : inBucket now (l.buckets agentId) = inBucket now (l₀.buckets agentId) :=
        h.buckets agentId _ hnow (hlive.bucket htried hproduction)
      have hsame : localFallback host agentId now true (l.buckets agentId) =
          localFallback host agentId now true (l₀.buckets agentId) := by
        simp only [localFallback, hbucket]
      rw [hsame]
      exact ⟨rfl, hwindows.updateBucket (Agree.refl _ _ _ _)⟩

theorem not_clean_of_dry : ¬ Clean ⟨now, false⟩ := Bool.false_ne_true

/-- The `try` block of a dry call in one of the limiters. -/
theorem tryRedis_dry {entries entries₀ : List Entry} {D D' : ℤ → Prop}
    (h : Agree (sweep Entry.time) D Clean entries entries₀)
    (hD : ∀ c, D' c → D c ∧ now - window ≤ c) :
    Agree (sweep Entry.time) D' Clean (tryRedis host redis agentId now false entries).2
      entries₀ := by
  have hkept : Agree (sweep Entry.time) D' Clean (inWindow now entries) entries₀ :=
    h.prune_left hD
  have hadded := hkept.append_left (@not_clean_of_dry now)
  cases redis with
  | unreachable => exact h.mono fun c hc => (hD c hc).1
  | lost => exact hadded
  | answers =>
    simp only [tryRedis]
    split
    · exact hkept
    · exact hadded
  | revertFails =>
    simp only [tryRedis]
    split <;> exact hadded
  | rangeFails =>
    simp only [tryRedis]
    split
    · exact hkept
    · exact hadded

/-- The `except` block of a dry call in one of the limiters. -/
theorem localFallback_dry {entries entries₀ : List Entry} {D D' : ℤ → Prop}
    (h : Agree (unqueue Entry.time) D Clean entries entries₀)
    (hD : ∀ c, D' c → D c ∧ now - window ≤ c) :
    Agree (unqueue Entry.time) D' Clean (localFallback host agentId now false entries).2
      entries₀ := by
  have hkept : Agree (unqueue Entry.time) D' Clean (inBucket now entries) entries₀ :=
    h.prune_left hD
  simp only [localFallback]
  split
  · exact hkept
  · exact hkept.append_left not_clean_of_dry

/-- **A dry call of one limiter** leaves it in agreement with the other for readers who come no
earlier. -/
theorem checkRateLimit_dry (h : Agrees D l l₀) (hD : ∀ a c, D' a c → D a c)
    (hnow : ∀ c, D' agentId c → now - window ≤ c) :
    Agrees D' (checkRateLimit env settings host redis agentId now false l).2 l₀ := by
  have hboth (c : ℤ) (hc : D' agentId c) : D agentId c ∧ now - window ≤ c :=
    ⟨hD agentId c hc, hnow c hc⟩
  have hentries := @tryRedis_dry host redis agentId now _ _ _ (D' agentId) (h.windows agentId) hboth
  have hwindows := (h.mono hD).updateWindow hentries
  rw [Function.update_eq_self] at hwindows
  unfold checkRateLimit
  dsimp only
  split
  · exact hwindows
  · split
    · exact hwindows
    · have hfallen := @localFallback_dry host agentId now _ _ _ (D' agentId) (h.buckets agentId)
        hboth
      have hbuckets := hwindows.updateBucket hfallen
      rw [Function.update_eq_self] at hbuckets
      exact hbuckets

end Agreement

end MandatePlane.RateLimiter

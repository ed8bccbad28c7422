import MandatePlane.LabelledRun
import MandatePlane.RateLimiter
import Mathlib.Order.Monotone.Basic
import Mathlib.Order.Lattice

/-!
# The rate limiter, call by call

`RedisRateLimiter.check_rate_limit` with every argument its callers may give it: costs,
limits, windows and tiers.  The policy rule asks it with a cost of one under the default
limit and window, and what it is answered is what the rule's model of the limiter says.

An entry of a sorted set is named by its time, its cost and a reading of
`time.perf_counter_ns`; the name is a text of the three, from which they can be read back.
Times are microseconds, and so are the waiting times, of which a host knows the texts.
-/

namespace MandatePlane.LimiterCalls

open LabelledRun PrunedLog HostEnvironment PolicyEngine JsonValue RateLimiter

/-- `RedisRateLimiter(default_rate_limit, default_window_seconds)`. -/
structure RedisRateLimiter where
  defaultRateLimit : ℤ
  defaultWindowSeconds : ℤ

/-- The limiter of the policy rule. -/
def standardLimiter : RedisRateLimiter := ⟨60, 60⟩

/-- `round(seconds, 2)` and the text of a float. -/
structure SecondsHost where
  round2 : ℤ → ℤ
  text : ℤ → String
  round2_mono : ∀ x y, x ≤ y → round2 x ≤ round2 y
  round2_tenth : round2 100000 = 100000
  text_zero : text 0 = "0.0"
  text_one : text 1000000 = "1.0"

/-- An entry of a sorted set: the parts of its `member_id`, of which the time is the score. -/
structure Member where
  now : ℤ
  cost : ℤ
  perfCounterNs : ℤ
  deriving DecidableEq

/-- The arguments of a call and what it reads of the clocks. -/
structure RateLimitCall where
  agentId : String
  cost : ℤ
  customLimit : Option ℤ
  customWindowSeconds : Option ℤ
  tier : String
  now : ℤ
  perfCounterNs : ℤ

/-- `RateLimitResult`, with the waiting time in microseconds. -/
structure RateLimitReport where
  allowed : Bool
  limit : ℤ
  remaining : ℤ
  resetEpochSeconds : ℤ
  retryAfter : ℤ
  agentId : String
  tier : String
  rejectionReason : Option String

/-- The sorted sets of Redis and the queues of the process, by key. -/
structure LimiterMemory where
  sortedSets : String → List Member
  fallbackBuckets : String → List ℤ

def LimiterMemory.empty : LimiterMemory := ⟨fun _ => [], fun _ => []⟩

/-- `_get_key`. -/
def getKey (agentId tier : String) : String := s!"ratelimit:agent:{agentId}:{tier}"

/-- `custom or default`. -/
def customOr (custom : Option ℤ) (default : ℤ) : ℤ :=
  match custom with
  | none => default
  | some n => if n = 0 then default else n

namespace RateLimitCall

def key (call : RateLimitCall) : String := getKey call.agentId call.tier

def member (call : RateLimitCall) : Member := ⟨call.now, call.cost, call.perfCounterNs⟩

end RateLimitCall

namespace RedisRateLimiter

def limit (limiter : RedisRateLimiter) (call : RateLimitCall) : ℤ :=
  customOr call.customLimit limiter.defaultRateLimit

def windowSeconds (limiter : RedisRateLimiter) (call : RateLimitCall) : ℤ :=
  customOr call.customWindowSeconds limiter.defaultWindowSeconds

/-- The window in microseconds. -/
def window (limiter : RedisRateLimiter) (call : RateLimitCall) : ℤ :=
  limiter.windowSeconds call * 1000000

/-- `now - window`. -/
def clearBefore (limiter : RedisRateLimiter) (call : RateLimitCall) : ℤ :=
  call.now - limiter.window call

end RedisRateLimiter

/-- `int(seconds)`. -/
def intSeconds (t : ℤ) : ℤ := t.tdiv 1000000

/-! ### The sorted set -/

/-- `ZADD`; an entry that is there keeps its place, as its score is part of its name. -/
def zadd (m : Member) (entries : List Member) : List Member :=
  if m ∈ entries then entries else entries ++ [m]

/-- `ZREM`. -/
def zrem (m : Member) (entries : List Member) : List Member := entries.filter (· ≠ m)

/-- `ZREMRANGEBYSCORE key -inf clear_before`. -/
def zpruned (limiter : RedisRateLimiter) (call : RateLimitCall) (entries : List Member) :
    List Member :=
  (sweep Member.now).prune (limiter.clearBefore call) entries

/-- The transaction: the entries that were counted, and the set with the new entry. -/
def pipeline (limiter : RedisRateLimiter) (call : RateLimitCall) (entries : List Member) :
    List Member × List Member :=
  (zpruned limiter call entries, zadd call.member (zpruned limiter call entries))

/-- `current_count + cost > limit`, whatever was counted. -/
def exceeds (limiter : RedisRateLimiter) (call : RateLimitCall) (currentCount : ℕ) : Bool :=
  currentCount + call.cost > limiter.limit call

/-- The answer over a full window, with the entries `ZRANGE key 0 0` picks the oldest of. -/
def redisExceeded (limiter : RedisRateLimiter) (host : SecondsHost) (call : RateLimitCall)
    (currentCount : ℕ) (entries : List Member) : RateLimitReport :=
  let oldest := ((entries.map Member.now).min?).getD call.now
  let resetTime := intSeconds (oldest + limiter.window call)
  let retryAfter := max 100000 (host.round2 (resetTime * 1000000 - call.now))
  { allowed := false
    limit := limiter.limit call
    remaining := 0
    resetEpochSeconds := resetTime
    retryAfter
    agentId := call.agentId
    tier := call.tier
    rejectionReason := some (s!"Agent '{call.agentId}' rate limit exceeded " ++
      s!"({currentCount}/{limiter.limit call} in {limiter.windowSeconds call}s window). " ++
      s!"Retry after {host.text retryAfter}s.") }

def redisAllowed (limiter : RedisRateLimiter) (call : RateLimitCall) (currentCount : ℕ) :
    RateLimitReport where
  allowed := true
  limit := limiter.limit call
  remaining := max 0 (limiter.limit call - (currentCount + call.cost))
  resetEpochSeconds := intSeconds (call.now + limiter.window call)
  retryAfter := 0
  agentId := call.agentId
  tier := call.tier
  rejectionReason := none

/-- The `try` block: the answer or its exception, and what is left of the sorted set. -/
def checkRedis (limiter : RedisRateLimiter) (host : SecondsHost) (redis : RedisCall)
    (call : RateLimitCall) (entries : List Member) : Option RateLimitReport × List Member :=
  let counted := (pipeline limiter call entries).1
  let added := (pipeline limiter call entries).2
  let reverted := zrem call.member added
  match redis with
  | .unreachable => (none, entries)
  | .lost => (none, added)
  | .answers =>
    if exceeds limiter call counted.length then
      (some (redisExceeded limiter host call counted.length reverted), reverted)
    else (some (redisAllowed limiter call counted.length), added)
  | .revertFails =>
    if exceeds limiter call counted.length then (none, added)
    else (some (redisAllowed limiter call counted.length), added)
  | .rangeFails =>
    if exceeds limiter call counted.length then (none, reverted)
    else (some (redisAllowed limiter call counted.length), added)

/-! ### The fallback -/

def failClosed (limiter : RedisRateLimiter) (call : RateLimitCall) : RateLimitReport where
  allowed := false
  limit := limiter.limit call
  remaining := 0
  resetEpochSeconds := intSeconds (call.now + limiter.window call)
  retryAfter := 1000000
  agentId := call.agentId
  tier := call.tier
  rejectionReason := some "Rate limiter unavailable; request denied safely."

/-- `while bucket and bucket[0] <= clear_before: bucket.popleft()`. -/
def poppedBucket (limiter : RedisRateLimiter) (call : RateLimitCall) (bucket : List ℤ) : List ℤ :=
  (unqueue id).prune (limiter.clearBefore call) bucket

/-- The local limiter: the answer and what is left of the queue. -/
def checkLocal (limiter : RedisRateLimiter) (host : SecondsHost) (call : RateLimitCall)
    (bucket : List ℤ) : RateLimitReport × List ℤ :=
  let bucket := poppedBucket limiter call bucket
  if bucket.length + call.cost > limiter.limit call then
    let retryAfter := match bucket.head? with
      | some oldest => max 100000 (oldest + limiter.window call - call.now)
      | none => limiter.window call
    ({ allowed := false
       limit := limiter.limit call
       remaining := 0
       resetEpochSeconds := intSeconds (call.now + retryAfter)
       retryAfter := host.round2 retryAfter
       agentId := call.agentId
       tier := s!"{call.tier}_local"
       rejectionReason := some s!"Agent '{call.agentId}' rate limit exceeded." }, bucket)
  else
    let bucket := bucket ++ List.replicate call.cost.toNat call.now
    ({ allowed := true
       limit := limiter.limit call
       remaining := limiter.limit call - bucket.length
       resetEpochSeconds := intSeconds (call.now + limiter.window call)
       retryAfter := 0
       agentId := call.agentId
       tier := s!"{call.tier}_local"
       rejectionReason := none }, bucket)

/-- `check_rate_limit`. -/
def checkRateLimit (env : Platform) (settings : Settings) (limiter : RedisRateLimiter)
    (host : SecondsHost) (redis : RedisCall) (call : RateLimitCall) (l : LimiterMemory) :
    RateLimitReport × LimiterMemory :=
  let tried := checkRedis limiter host redis call (l.sortedSets call.key)
  let l := { l with sortedSets := Function.update l.sortedSets call.key tried.2 }
  match tried.1 with
  | some report => (report, l)
  | none =>
    if env.lower settings.environment = "production" then (failClosed limiter call, l)
    else
      let fallen := checkLocal limiter host call (l.fallbackBuckets call.key)
      (fallen.1, { l with
        fallbackBuckets := Function.update l.fallbackBuckets call.key fallen.2 })

/-- Calls one after the other, with what Redis does for each; the log has each call's answer. -/
def limiterMachine (env : Platform) (settings : Settings) (limiter : RedisRateLimiter)
    (host : SecondsHost) :
    Machine LimiterMemory (RedisCall × RateLimitCall) (RateLimitCall × RateLimitReport) where
  next l call := (checkRateLimit env settings limiter host call.1 call.2 l).2
  log l call := [(call.2, (checkRateLimit env settings limiter host call.1 call.2 l).1)]

/-! ### Keys -/

/-- Under one tier the agents have different keys. -/
theorem getKey_injective {tier agentId agentId' : String}
    (h : getKey agentId tier = getKey agentId' tier) : agentId = agentId' := by
  have h' : "ratelimit:agent:" ++ agentId ++ ":" ++ tier =
      "ratelimit:agent:" ++ agentId' ++ ":" ++ tier := h
  rw [String.append_left_inj, String.append_left_inj, String.append_right_inj] at h'
  exact h'

/-! ### The limiter of the policy rule -/

/-- What the rule's model takes from the host. -/
def SecondsHost.rounding (host : SecondsHost) : Rounding where
  seconds x := .float (host.text (max 100000 (host.round2 x))) true
  text x := host.text (max 100000 (host.round2 x))

/-- What the rule reads of a report. -/
def RateLimitReport.result (host : SecondsHost) (report : RateLimitReport) : RateLimitResult where
  allowed := report.allowed
  limit := report.limit
  remaining := report.remaining
  retryAfterSeconds := .float (host.text report.retryAfter) (report.retryAfter != 0)
  rejectionReason := report.rejectionReason

/-- `check_rate_limit(agent_id=agent.id, cost=1)`. -/
def ruleCall (agentId : String) (now perfCounterNs : ℤ) : RateLimitCall :=
  ⟨agentId, 1, none, none, "standard", now, perfCounterNs⟩

/-- The same entries, by their times. -/
structure SameEntries (l : Limiter) (l' : LimiterMemory) : Prop where
  windows : ∀ a, (l.windows a).map Entry.time = (l'.sortedSets (getKey a "standard")).map Member.now
  buckets : ∀ a, (l.buckets a).map Entry.time = l'.fallbackBuckets (getKey a "standard")

section Rule

variable {host : SecondsHost} {redis : RedisCall} {agentId : String} {now perfCounterNs : ℤ}
  {live : Bool} {entries : List Entry} {members : List Member} {bucket : List ℤ}

theorem zadd_of_not_mem {m : Member} (h : m ∉ members) : zadd m members = members ++ [m] :=
  if_neg h

/-- Reverting a new entry gives back what was counted. -/
theorem zrem_zadd_of_not_mem {m : Member} (h : m ∉ members) : zrem m (zadd m members) = members := by
  rw [zadd_of_not_mem h, zrem, List.filter_append, List.filter_cons_of_neg (by simp),
    List.filter_nil, List.append_nil, List.filter_eq_self]
  intro m' hm'
  exact decide_eq_true fun he => h (he ▸ hm')

theorem inWindow_times (h : entries.map Entry.time = members.map Member.now) :
    (inWindow now entries).map Entry.time =
      (zpruned standardLimiter (ruleCall agentId now perfCounterNs) members).map Member.now := by
  have hfilter (e : List Entry) : ((e.filter fun e => now - 60000000 < e.time).map Entry.time) =
      (e.map Entry.time).filter fun t => now - 60000000 < t := by
    rw [List.filter_map]
    rfl
  have hfilter' (m : List Member) : ((m.filter fun m => now - 60000000 < m.now).map Member.now) =
      (m.map Member.now).filter fun t => now - 60000000 < t := by
    rw [List.filter_map]
    rfl
  show ((entries.filter fun e => now - 60000000 < e.time).map Entry.time) =
    ((members.filter fun m => now - 60000000 < m.now).map Member.now)
  rw [hfilter, hfilter', h]

theorem waits_ne_zero (x : ℤ) : (max 100000 x != 0) = true := by
  rw [bne_iff_ne]
  have hle : 100000 ≤ max 100000 x := le_max_left 100000 x
  omega

/-- The same refusal over the same entries. -/
theorem limitExceeded_rule (h : entries.map Entry.time = members.map Member.now) :
    limitExceeded host.rounding agentId now entries =
      (redisExceeded standardLimiter host (ruleCall agentId now perfCounterNs) entries.length
        members).result host := by
  have htext : s!"({entries.length}/{RateLimiter.defaultRateLimit} in 60s window). " =
      s!"({entries.length}/{(60 : ℤ)} in {(60 : ℤ)}s window). " := by
    show "(" ++ toString entries.length ++ "/" ++ "60" ++ " in 60s window). " =
      "(" ++ toString entries.length ++ "/" ++ "60" ++ " in " ++ "60" ++ "s window). "
    have hlast : " in " ++ ("60" ++ "s window). ") = " in 60s window). " := rfl
    simp only [String.append_assoc, hlast]
  unfold limitExceeded redisExceeded RateLimitReport.result
  rw [h]
  simp only [waits_ne_zero]
  congr 1
  exact congrArg some (congrArg (_ ++ · ++ _) htext)

/-- **The `try` block of the rule's call.** -/
theorem checkRedis_rule (h : entries.map Entry.time = members.map Member.now)
    (hnew : (ruleCall agentId now perfCounterNs).member ∉
      zpruned standardLimiter (ruleCall agentId now perfCounterNs) members) :
    (tryRedis host.rounding redis agentId now live entries).1 =
        (checkRedis standardLimiter host redis (ruleCall agentId now perfCounterNs) members).1.map
          (RateLimitReport.result host) ∧
      (tryRedis host.rounding redis agentId now live entries).2.map Entry.time =
        (checkRedis standardLimiter host redis (ruleCall agentId now perfCounterNs)
          members).2.map Member.now := by
  have hkept := @inWindow_times agentId now perfCounterNs entries members h
  have hlength := congrArg List.length hkept
  rw [List.length_map, List.length_map] at hlength
  unfold tryRedis checkRedis pipeline
  dsimp only
  rw [zrem_zadd_of_not_mem hnew, zadd_of_not_mem hnew, ← hlength]
  generalize zpruned standardLimiter (ruleCall agentId now perfCounterNs) members = counted at hkept
  generalize inWindow now entries = kept at hkept
  have hadded : (kept ++ [(⟨now, live⟩ : Entry)]).map Entry.time =
      (counted ++ [(ruleCall agentId now perfCounterNs).member]).map Member.now := by
    rw [List.map_append, List.map_append, hkept]
    rfl
  have hexceeds : (exceeds standardLimiter (ruleCall agentId now perfCounterNs) kept.length = true) ↔
      kept.length + 1 > RateLimiter.defaultRateLimit := by
    unfold exceeds
    rw [decide_eq_true_eq]
    show (kept.length : ℤ) + 1 > 60 ↔ kept.length + 1 > 60
    omega
  have hallowed : withinLimit kept.length =
      (redisAllowed standardLimiter (ruleCall agentId now perfCounterNs) kept.length).result host := by
    unfold RateLimitReport.result redisAllowed
    simp only [host.text_zero]
    rfl
  have hrefused := @limitExceeded_rule host agentId now perfCounterNs kept counted hkept
  cases redis with
  | unreachable => exact ⟨rfl, h⟩
  | lost => exact ⟨rfl, hadded⟩
  | answers =>
    simp only [hexceeds]
    split
    · exact ⟨congrArg some hrefused, hkept⟩
    · exact ⟨congrArg some hallowed, hadded⟩
  | revertFails =>
    simp only [hexceeds]
    split
    · exact ⟨rfl, hadded⟩
    · exact ⟨congrArg some hallowed, hadded⟩
  | rangeFails =>
    simp only [hexceeds]
    split
    · exact ⟨rfl, hkept⟩
    · exact ⟨congrArg some hallowed, hadded⟩

theorem inBucket_times (h : entries.map Entry.time = bucket) :
    (inBucket now entries).map Entry.time =
      poppedBucket standardLimiter (ruleCall agentId now perfCounterNs) bucket := by
  subst h
  show ((entries.dropWhile fun e => decide (e.time ≤ now - 60000000)).map Entry.time) =
    (entries.map Entry.time).dropWhile fun t => decide (t ≤ now - 60000000)
  rw [List.dropWhile_map]
  rfl

theorem waits_round2 (x : ℤ) : host.round2 (max 100000 x) = max 100000 (host.round2 x) := by
  have hmono : Monotone host.round2 := host.round2_mono
  rw [hmono.map_max, host.round2_tenth]

/-- **The fallback of the rule's call.** -/
theorem checkLocal_rule (h : entries.map Entry.time = bucket) :
    (localFallback host.rounding agentId now live entries).1 =
        (checkLocal standardLimiter host (ruleCall agentId now perfCounterNs) bucket).1.result host ∧
      (localFallback host.rounding agentId now live entries).2.map Entry.time =
        (checkLocal standardLimiter host (ruleCall agentId now perfCounterNs) bucket).2 := by
  have hkept := @inBucket_times agentId now perfCounterNs entries bucket h
  unfold localFallback checkLocal
  dsimp only
  generalize poppedBucket standardLimiter (ruleCall agentId now perfCounterNs) bucket = popped at hkept
  generalize inBucket now entries = kept at hkept
  subst hkept
  rw [List.length_map]
  have hexceeds : ((kept.length : ℤ) + (ruleCall agentId now perfCounterNs).cost >
      standardLimiter.limit (ruleCall agentId now perfCounterNs)) ↔
      kept.length + 1 > RateLimiter.defaultRateLimit := by
    show (kept.length : ℤ) + 1 > 60 ↔ kept.length + 1 > 60
    omega
  simp only [hexceeds]
  split
  · rename_i hfull
    refine ⟨?_, rfl⟩
    cases kept with
    | nil => exact absurd hfull (by decide)
    | cons e kept =>
      unfold RateLimitReport.result
      simp only [List.map_cons, List.head?_cons, Option.map_some, Option.getD_some, waits_round2,
        waits_ne_zero]
      rfl
  · refine ⟨?_, ?_⟩
    · unfold RateLimitReport.result
      simp only [host.text_zero, List.length_append, List.length_map, List.length_replicate]
      rfl
    · rw [List.map_append]
      rfl

/-- **The rule asks this limiter**: under an entry's name that is new, a call with a cost of one under
the default limit and window is answered as the rule's model says, and leaves the same entries. -/
theorem checkRateLimit_rule {env : Platform} {settings : Settings} {l : Limiter} {l' : LimiterMemory}
    (h : SameEntries l l')
    (hnew : (ruleCall agentId now perfCounterNs).member ∉ zpruned standardLimiter
      (ruleCall agentId now perfCounterNs) (l'.sortedSets (getKey agentId "standard"))) :
    (RateLimiter.checkRateLimit env settings host.rounding redis agentId now live l).1 =
        (checkRateLimit env settings standardLimiter host redis
          (ruleCall agentId now perfCounterNs) l').1.result host ∧
      SameEntries (RateLimiter.checkRateLimit env settings host.rounding redis agentId now live l).2
        (checkRateLimit env settings standardLimiter host redis
          (ruleCall agentId now perfCounterNs) l').2 := by
  have hkey : (ruleCall agentId now perfCounterNs).key = getKey agentId "standard" := rfl
  have hupdate {α β : Type} (f : String → List α) (g : String → List β) (time : α → ℤ)
      (time' : β → ℤ) (hf : ∀ a, (f a).map time = (g (getKey a "standard")).map time')
      {x : List α} {y : List β} (hx : x.map time = y.map time') (a : String) :
      (Function.update f agentId x a).map time =
        (Function.update g (getKey agentId "standard") y (getKey a "standard")).map time' := by
    by_cases ha : a = agentId
    · subst ha
      rw [Function.update_self, Function.update_self, hx]
    · rw [Function.update_of_ne ha, Function.update_of_ne fun he => ha (getKey_injective he), hf]
  obtain ⟨htried, hset⟩ := @checkRedis_rule host redis agentId now perfCounterNs live
    (l.windows agentId) (l'.sortedSets (getKey agentId "standard")) (h.windows agentId) hnew
  have hwindows := hupdate l.windows l'.sortedSets Entry.time Member.now h.windows hset
  unfold RateLimiter.checkRateLimit checkRateLimit
  dsimp only
  rw [hkey, htried]
  cases (checkRedis standardLimiter host redis (ruleCall agentId now perfCounterNs)
      (l'.sortedSets (getKey agentId "standard"))).1 with
  | some report => exact ⟨rfl, hwindows, h.buckets⟩
  | none =>
    dsimp only [Option.map_none]
    by_cases hproduction : env.lower settings.environment = "production"
    · rw [if_pos hproduction, if_pos hproduction]
      refine ⟨?_, hwindows, h.buckets⟩
      unfold RateLimitReport.result failClosed
      simp only [host.text_one]
      rfl
    · rw [if_neg hproduction, if_neg hproduction]
      obtain ⟨hfallen, hbucket⟩ := @checkLocal_rule host agentId now perfCounterNs live
        (l.buckets agentId) (l'.fallbackBuckets (getKey agentId "standard")) (h.buckets agentId)
      refine ⟨hfallen, hwindows, fun a => ?_⟩
      have hbuckets := hupdate l.buckets l'.fallbackBuckets Entry.time id
        (fun a => by rw [h.buckets a, List.map_id]) (hbucket.trans (List.map_id _).symm) a
      rw [List.map_id] at hbuckets
      exact hbuckets

end Rule

end MandatePlane.LimiterCalls

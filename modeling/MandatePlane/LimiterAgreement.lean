import MandatePlane.LocalLimiter

/-!
# Do the two limiters agree?

The queue of the local limiter has a place for every unit of cost, the sorted set of Redis
an entry for every call.  Both are filled with the calls that were admitted, so that as
long as the limiters have decided alike the one sees the cost of what the window holds and
the other the number of its calls.  They part at the first call that fits beside that
number and does not fit beside that cost.
-/

namespace MandatePlane.LimiterAgreement

open LabelledRun PrunedLog SlidingWindow HostEnvironment LimiterCalls LocalLimiter
open RateLimiter (RedisCall)

/-- The answers of the Redis limiter, from empty sets. -/
def redisHistory (env : Platform) (settings : Settings) (limiter : RedisRateLimiter)
    (host : SecondsHost) (calls : List RateLimitCall) : History :=
  (limiterMachine env settings limiter host).trace .empty
    (calls.map fun call => (RedisCall.answers, call))

/-- The decisions of a history. -/
def decisions (history : History) : List Bool := history.map fun e => e.2.allowed

/-- **The limiters agree** on every call of a series. -/
def SameDecisions (env : Platform) (settings : Settings) (limiter : RedisRateLimiter)
    (host : SecondsHost) (calls : List RateLimitCall) : Prop :=
  decisions (redisHistory env settings limiter host calls) =
    decisions (localHistory env settings limiter host calls)

/-- **The number counts for the cost**: it is not so that a call fits beside the number of the entries
in the window and not beside what they cost. -/
def CountsCost (limiter : RedisRateLimiter) (call : RateLimitCall) (entries : List Member) : Prop :=
  ¬ ((zpruned limiter call entries).length + call.cost ≤ limiter.limit call ∧
    limiter.limit call < ((zpruned limiter call entries).map Member.cost).sum + call.cost)

/-- The name of the call's entry is not taken. -/
def FreshMember (limiter : RedisRateLimiter) (call : RateLimitCall) (entries : List Member) : Prop :=
  call.member ∉ zpruned limiter call entries

instance (limiter : RedisRateLimiter) (call : RateLimitCall) (entries : List Member) :
    Decidable (CountsCost limiter call entries) :=
  inferInstanceAs (Decidable (¬ (_ ∧ _)))

instance (limiter : RedisRateLimiter) (call : RateLimitCall) (entries : List Member) :
    Decidable (FreshMember limiter call entries) :=
  inferInstanceAs (Decidable (¬ _))

/-- What the Redis limiter meets at every call of a series. -/
def AlongRedis (env : Platform) (settings : Settings) (limiter : RedisRateLimiter)
    (host : SecondsHost) (P : RateLimitCall → List Member → Prop) (l : LimiterMemory)
    (calls : List RateLimitCall) : Prop :=
  (limiterMachine env settings limiter host).Along (fun l a => P a.2 (l.sortedSets a.2.key)) l
    (calls.map fun call => (RedisCall.answers, call))

instance (env : Platform) (settings : Settings) (limiter : RedisRateLimiter) (host : SecondsHost)
    (P : RateLimitCall → List Member → Prop) [∀ call entries, Decidable (P call entries)]
    (l : LimiterMemory) (calls : List RateLimitCall) :
    Decidable (AlongRedis env settings limiter host P l calls) :=
  inferInstanceAs (Decidable ((limiterMachine env settings limiter host).Along _ l _))

section Call

variable {env : Platform} {settings : Settings} {limiter : RedisRateLimiter} {host : SecondsHost}
  {call : RateLimitCall} {l : LimiterMemory} {entries : List Member}

/-- A call that Redis answers. -/
theorem checkRateLimit_answers :
    ∃ report, checkRateLimit env settings limiter host .answers call l = (report,
        ⟨Function.update l.sortedSets call.key
          (checkRedis limiter host .answers call (l.sortedSets call.key)).2, l.fallbackBuckets⟩) ∧
      (checkRedis limiter host .answers call (l.sortedSets call.key)).1 = some report := by
  unfold checkRateLimit
  cases htried : (checkRedis limiter host .answers call (l.sortedSets call.key)).1 with
  | some report =>
    refine ⟨report, ?_, rfl⟩
    dsimp only
    rw [htried]
  | none =>
    unfold checkRedis at htried
    dsimp only at htried
    split at htried <;> cases htried

/-- What the `try` block decides and leaves where Redis answers, under a new name. -/
theorem checkRedis_answers (hfresh : FreshMember limiter call entries) {report : RateLimitReport}
    (h : (checkRedis limiter host .answers call entries).1 = some report) :
    (report.allowed = true ↔
        (zpruned limiter call entries).length + call.cost ≤ limiter.limit call) ∧
      (checkRedis limiter host .answers call entries).2 = zpruned limiter call entries ++
        (if report.allowed then [call.member] else []) := by
  unfold checkRedis pipeline exceeds at h ⊢
  dsimp only at h ⊢
  rw [zrem_zadd_of_not_mem hfresh, zadd_of_not_mem hfresh] at h ⊢
  simp only [decide_eq_true_eq] at h ⊢
  split at h
  · rename_i hfull
    cases h
    rw [if_pos hfull]
    exact ⟨iff_of_false Bool.false_ne_true (by omega), (List.append_nil _).symm⟩
  · rename_i hroom
    cases h
    rw [if_neg hroom]
    exact ⟨iff_of_true rfl (by omega), rfl⟩

end Call

section Runs

variable {env : Platform} {settings : Settings} {limiter : RedisRateLimiter} {host : SecondsHost}
  {limit window : ℤ} {tier : String} {history : History} {l r : LimiterMemory}
  {call : RateLimitCall} {calls : List RateLimitCall}

/-- **The set of every agent shows the entries of its admitted calls.** -/
def ShowsMembers (window : ℤ) (tier : String) (history : History) (r : LimiterMemory) : Prop :=
  ∀ agentId, Agree (sweep Member.now)
    (fun c => ∀ call ∈ history.map Prod.fst, call.now - window ≤ c) (fun _ => True)
    (r.sortedSets (getKey agentId tier)) ((admitted agentId history).map RateLimitCall.member)

/-- What the entries of calls cost that are younger than a cutoff, and how many there are. -/
theorem members_since (hcost : ∀ call ∈ calls, 0 < call.cost) (cutoff : ℤ) :
    ((((calls.map RateLimitCall.member).filter fun m => cutoff < m.now).map Member.cost).sum =
        spentSince RateLimitCall.now RateLimitCall.cost cutoff calls) ∧
      (((calls.map RateLimitCall.member).filter fun m => cutoff < m.now).length : ℤ) ≤
        spentSince RateLimitCall.now RateLimitCall.cost cutoff calls := by
  have hfilter : (calls.map RateLimitCall.member).filter (fun m => cutoff < m.now) =
      (calls.filter fun call => cutoff < call.now).map RateLimitCall.member := by
    rw [List.filter_map]
    rfl
  rw [hfilter, List.map_map, List.length_map]
  refine ⟨rfl, ?_⟩
  unfold spentSince
  have hkept : ∀ call ∈ calls.filter fun call => cutoff < call.now, 0 < call.cost :=
    fun call hcall => hcost call (List.mem_of_mem_filter hcall)
  generalize calls.filter (fun call => cutoff < call.now) = kept at hkept
  induction kept with
  | nil => exact le_refl 0
  | cons call kept ih =>
    have hhead := hkept call List.mem_cons_self
    have htail := ih fun call hcall => hkept call (List.mem_cons_of_mem _ hcall)
    rw [List.length_cons, List.map_cons, List.sum_cons]
    push_cast
    omega

/-- **One call of both limiters** that have decided alike: they decide alike again exactly if the
number counts for the cost, and then the set goes on showing what was admitted. -/
theorem agree_step (henv : env.lower settings.environment ≠ "production")
    (hseries : Series limiter limit window tier (history.map Prod.fst ++ [call]))
    (hshows : ShowsAdmitted window tier history l) (hmembers : ShowsMembers window tier history r)
    (hfresh : FreshMember limiter call (r.sortedSets call.key)) :
    ((checkRateLimit env settings limiter host .answers call r).1.allowed =
        (checkRateLimit env settings limiter host .unreachable call l).1.allowed ↔
          CountsCost limiter call (r.sortedSets call.key)) ∧
      ((checkRateLimit env settings limiter host .answers call r).1.allowed =
          (checkRateLimit env settings limiter host .unreachable call l).1.allowed →
        ShowsMembers window tier
          (history ++ [(call, (checkRateLimit env settings limiter host .unreachable call l).1)])
          (checkRateLimit env settings limiter host .answers call r).2) := by
  have hmem : call ∈ history.map Prod.fst ++ [call] :=
    List.mem_append_right _ (List.mem_singleton_self call)
  have hlimit := hseries.limit call hmem
  obtain ⟨hlocal, -, -⟩ := @call_step env settings limiter host limit window tier history l call henv
    hseries hshows
  obtain ⟨report, hcheck, hreport⟩ := @checkRateLimit_answers env settings limiter host call r
  obtain ⟨hredis, hset⟩ := checkRedis_answers hfresh hreport
  rw [hcheck]
  dsimp only
  generalize (checkRateLimit env settings limiter host .unreachable call l).1 = report' at hlocal ⊢
  -- the call sees the entries of what its agent was admitted with
  have hsees : zpruned limiter call (r.sortedSets call.key) =
      ((admitted call.agentId history).map RateLimitCall.member).filter
        fun m => call.now - window < m.now := by
    unfold zpruned
    rw [hseries.last_clearBefore, hseries.last_key,
      hmembers call.agentId _ hseries.last_cutoff fun _ _ => trivial]
    rfl
  obtain ⟨hcosts, hnumber⟩ := @members_since (admitted call.agentId history)
    (fun call' hcall' => hseries.positive call' (List.mem_append_left _ (mem_admitted hcall')))
    (call.now - window)
  have hsame : report.allowed = report'.allowed ↔
      CountsCost limiter call (r.sortedSets call.key) := by
    unfold CountsCost
    rw [Bool.eq_iff_iff, hlocal, hredis, hsees, hcosts, hlimit]
    omega
  refine ⟨hsame, fun hdecided agentId => ?_⟩
  have hwritten (calls : List RateLimitCall) :
      calls.map RateLimitCall.member = calls.flatMap fun call => [call.member] := List.map_eq_flatMap
  rw [hset, hdecided, hseries.last_key]
  dsimp only
  unfold zpruned
  rw [hseries.last_clearBefore, hwritten]
  refine @agree_snoc window tier history call report' Member (sweep Member.now)
    (fun call => [call.member]) r.sortedSets (fun agentId => ?_) agentId
  rw [← hwritten]
  exact hmembers agentId

/-- **Runs of both limiters** that have decided alike so far. -/
theorem agree_run (henv : env.lower settings.environment ≠ "production")
    (hseries : Series limiter limit window tier (history.map Prod.fst ++ calls))
    (hshows : ShowsAdmitted window tier history l) (hmembers : ShowsMembers window tier history r)
    (hfresh : AlongRedis env settings limiter host (FreshMember limiter) r calls) :
    decisions ((limiterMachine env settings limiter host).trace r
        (calls.map fun call => (RedisCall.answers, call))) =
      decisions ((limiterMachine env settings limiter host).trace l
        (calls.map fun call => (RedisCall.unreachable, call))) ↔
      AlongRedis env settings limiter host (CountsCost limiter) r calls := by
  induction calls generalizing history l r with
  | nil => exact iff_of_true rfl trivial
  | cons call calls ih =>
    obtain ⟨hfirst, hrest⟩ := hseries.split
    obtain ⟨hsame, hmembers'⟩ := agree_step henv hfirst hshows hmembers hfresh.1
    obtain ⟨-, -, hshows'⟩ := @call_step env settings limiter host limit window tier history l call
      henv hfirst hshows
    have htail := fun hdecided => ih hrest hshows' (hmembers' hdecided) hfresh.2
    constructor
    · intro h
      obtain ⟨hhead, h⟩ := List.cons.inj h
      exact ⟨hsame.mp hhead, (htail hhead).mp h⟩
    · rintro ⟨hhead, h⟩
      exact List.cons_eq_cons.mpr ⟨hsame.mpr hhead, (htail (hsame.mpr hhead)).mpr h⟩

end Runs

/-- **The limiters agree on a series exactly if the number of the entries counts for their cost at
every call of it**, the names of the entries being new. -/
theorem same_decisions_iff (env : Platform) (settings : Settings) (limiter : RedisRateLimiter)
    (host : SecondsHost) (limit window : ℤ) (tier : String) (calls : List RateLimitCall)
    (henv : env.lower settings.environment ≠ "production")
    (hseries : Series limiter limit window tier calls)
    (hfresh : AlongRedis env settings limiter host (FreshMember limiter) .empty calls) :
    SameDecisions env settings limiter host calls ↔
      AlongRedis env settings limiter host (CountsCost limiter) .empty calls :=
  @agree_run env settings limiter host limit window tier [] .empty .empty calls henv hseries
    (fun _ => Agree.refl _ _ _ _) (fun _ => Agree.refl _ _ _ _) hfresh

namespace Sample

/-- A limiter of three places. -/
def threePlaces : RedisRateLimiter := ⟨3, 60⟩

/-- Two calls of one agent, the first of which costs two. -/
def twoCalls (cost : ℤ) : List RateLimitCall :=
  [LocalLimiter.Sample.call "agent-a" 2 0 1, LocalLimiter.Sample.call "agent-a" cost 1 2]

end Sample

open Sample ControlPlane.Sample in
/-- A call of two and one of one take the three places. -/
theorem same_decisions_filled :
    SameDecisions platform settings threePlaces LocalLimiter.Sample.seconds (twoCalls 1) := by
  have hseries : Series threePlaces 3 60000000 "standard" (twoCalls 1) :=
    ⟨by decide, by decide, by decide, by decide, by decide⟩
  have hfresh : AlongRedis platform settings threePlaces LocalLimiter.Sample.seconds
      (FreshMember threePlaces) .empty (twoCalls 1) := by decide +kernel
  have hcounts : AlongRedis platform settings threePlaces LocalLimiter.Sample.seconds
      (CountsCost threePlaces) .empty (twoCalls 1) := by decide +kernel
  exact (same_decisions_iff _ _ _ _ _ _ _ _ (by decide) hseries hfresh).mpr hcounts

open Sample ControlPlane.Sample in
/-- **Two calls of two** are too much for three places.  The set of Redis has one entry when the
second comes, and admits it; the queue has two places taken, and does not. -/
theorem not_same_decisions :
    Series threePlaces 3 60000000 "standard" (twoCalls 2) ∧
      ¬ SameDecisions platform settings threePlaces LocalLimiter.Sample.seconds (twoCalls 2) := by
  refine ⟨⟨by decide, by decide, by decide, by decide, by decide⟩, ?_⟩
  unfold SameDecisions
  decide +kernel

end MandatePlane.LimiterAgreement

import MandatePlane.ControlPlane
import MandatePlane.LimiterCalls
import MandatePlane.SlidingWindow
import Mathlib.Algebra.Order.Group.Int
import Mathlib.Data.List.Induction

/-!
# The local limiter is a sliding window

Where Redis is not reached, outside production, a call takes as many places in a queue of
its agent as it costs, and the places that are older than the window are taken back from
the front.  So it is admitted exactly if its cost, with the cost of what the agent was
admitted with in the window before it, is within the limit.

A queue forgets what is too old.  The invariant compares it with the places of everything
that was ever admitted: a reader who comes no earlier than the calls so far sees the same.
-/

namespace MandatePlane.LocalLimiter

open LabelledRun PrunedLog SlidingWindow HostEnvironment LimiterCalls
open RateLimiter (RedisCall)

/-- Calls with their answers, in the order they were made. -/
abbrev History := List (RateLimitCall × RateLimitReport)

/-- The calls of an agent that were admitted. -/
def admitted (agentId : String) (history : History) : List RateLimitCall :=
  (history.filter fun e => e.2.allowed && e.1.agentId = agentId).map Prod.fst

/-- The answers of the local limiter, from empty queues. -/
def localHistory (env : Platform) (settings : Settings) (limiter : RedisRateLimiter)
    (host : SecondsHost) (calls : List RateLimitCall) : History :=
  (limiterMachine env settings limiter host).trace .empty
    (calls.map fun call => (RedisCall.unreachable, call))

/-- **A series of calls** in the order of their times, with positive costs, under one tier, limit and
window. -/
structure Series (limiter : RedisRateLimiter) (limit window : ℤ) (tier : String)
    (calls : List RateLimitCall) : Prop where
  ordered : calls.Pairwise fun call call' => call.now ≤ call'.now
  positive : ∀ call ∈ calls, 0 < call.cost
  tier : ∀ call ∈ calls, call.tier = tier
  limit : ∀ call ∈ calls, limiter.limit call = limit
  window : ∀ call ∈ calls, limiter.window call = window

/-- **A sliding window**: a call is admitted exactly if it fits beside what its agent was admitted
with in the window before it; so no span shorter than the window holds more than the limit, and no
negative rest is reported. -/
structure Windowed (limit window : ℤ) (history : History) : Prop where
  decided : ∀ before call report after, history = before ++ (call, report) :: after →
    (report.allowed = true ↔ call.cost + spentSince RateLimitCall.now RateLimitCall.cost
      (call.now - window) (admitted call.agentId before) ≤ limit)
  bounded : ∀ agentId first last, last - first < window →
    spentWithin RateLimitCall.now RateLimitCall.cost first last (admitted agentId history) ≤
      max limit 0
  remaining : ∀ entry ∈ history, 0 ≤ entry.2.remaining

/-- A series that goes on with a call. -/
theorem Series.split {limiter : RedisRateLimiter} {limit window : ℤ} {tier : String}
    {history : History} {call : RateLimitCall} {report : RateLimitReport}
    {calls : List RateLimitCall}
    (h : Series limiter limit window tier (history.map Prod.fst ++ call :: calls)) :
    Series limiter limit window tier (history.map Prod.fst ++ [call]) ∧
      Series limiter limit window tier ((history ++ [(call, report)]).map Prod.fst ++ calls) := by
  have hprefix : history.map Prod.fst ++ [call] <+: history.map Prod.fst ++ call :: calls :=
    ⟨calls, by simp⟩
  have hsub := hprefix.subset
  refine ⟨⟨h.ordered.sublist hprefix.sublist, fun c hc => h.positive c (hsub hc),
    fun c hc => h.tier c (hsub hc), fun c hc => h.limit c (hsub hc),
    fun c hc => h.window c (hsub hc)⟩, ?_⟩
  rw [List.map_append, List.append_assoc]
  exact h

section Last

variable {limiter : RedisRateLimiter} {limit window : ℤ} {tier : String}
  {past : List RateLimitCall} {call : RateLimitCall}

theorem Series.last_key (h : Series limiter limit window tier (past ++ [call])) :
    call.key = getKey call.agentId tier := by
  rw [RateLimitCall.key, h.tier call (List.mem_append_right _ (List.mem_singleton_self call))]

theorem Series.last_clearBefore (h : Series limiter limit window tier (past ++ [call])) :
    limiter.clearBefore call = call.now - window := by
  rw [RedisRateLimiter.clearBefore,
    h.window call (List.mem_append_right _ (List.mem_singleton_self call))]

/-- The last call reads no earlier than the others did. -/
theorem Series.last_cutoff (h : Series limiter limit window tier (past ++ [call])) :
    ∀ call' ∈ past, call'.now - window ≤ call.now - window := fun call' hcall' =>
  sub_le_sub_right ((List.pairwise_append.mp h.ordered).2.2 call' hcall' call
    (List.mem_singleton_self call)) window

end Last

/-! ### The places of what was admitted -/

/-- The places that calls take. -/
def places (calls : List RateLimitCall) : List ℤ :=
  calls.flatMap fun call => List.replicate call.cost.toNat call.now

section Places

variable {calls : List RateLimitCall} {cutoff : ℤ}

theorem mem_places {t : ℤ} (h : t ∈ places calls) : ∃ call ∈ calls, call.now = t := by
  obtain ⟨call, hcall, ht⟩ := List.mem_flatMap.mp h
  exact ⟨call, hcall, (List.eq_of_mem_replicate ht).symm⟩

theorem places_sorted (h : calls.Pairwise fun call call' => call.now ≤ call'.now) :
    (places calls).Pairwise fun t t' => id t ≤ id t' := by
  induction calls with
  | nil => exact List.Pairwise.nil
  | cons call calls ih =>
    obtain ⟨hhead, htail⟩ := List.pairwise_cons.mp h
    show (List.replicate call.cost.toNat call.now ++ places calls).Pairwise _
    refine List.pairwise_append.mpr ⟨?_, ih htail, fun t ht t' ht' => ?_⟩
    · exact List.pairwise_replicate.mpr (.inr (le_refl call.now))
    · obtain ⟨call', hcall', rfl⟩ := mem_places ht'
      rw [List.eq_of_mem_replicate ht]
      exact hhead call' hcall'

/-- As many places are younger than a cutoff as the calls cost that are. -/
theorem length_places (hcost : ∀ call ∈ calls, 0 ≤ call.cost) :
    (((places calls).filter fun t => cutoff < t).length : ℤ) =
      spentSince RateLimitCall.now RateLimitCall.cost cutoff calls := by
  induction calls with
  | nil => rfl
  | cons call calls ih =>
    have hnonneg := hcost call List.mem_cons_self
    have hrest := ih fun call hcall => hcost call (List.mem_cons_of_mem _ hcall)
    have hplaces : places (call :: calls) = List.replicate call.cost.toNat call.now ++ places calls :=
      rfl
    have hcalls : call :: calls = [call] ++ calls := rfl
    rw [hplaces, hcalls, spentSince_append, List.filter_append, List.length_append,
      Nat.cast_add, hrest, List.filter_replicate]
    congr 1
    unfold spentSince
    by_cases hyoung : cutoff < call.now
    · rw [if_pos (by simpa using hyoung), List.length_replicate,
        List.filter_cons_of_pos (by simpa using hyoung), List.filter_nil]
      simp [hnonneg]
    · rw [if_neg (by simpa using hyoung), List.filter_cons_of_neg (by simpa using hyoung)]
      rfl

end Places

/-! ### One call -/

section Call

variable {env : Platform} {settings : Settings} {limiter : RedisRateLimiter} {host : SecondsHost}
  {call : RateLimitCall} {l : LimiterMemory} {bucket : List ℤ}

/-- A call that does not reach Redis, outside production. -/
theorem checkRateLimit_unreachable (henv : env.lower settings.environment ≠ "production") :
    checkRateLimit env settings limiter host .unreachable call l =
      ((checkLocal limiter host call (l.fallbackBuckets call.key)).1,
        ⟨l.sortedSets, Function.update l.fallbackBuckets call.key
          (checkLocal limiter host call (l.fallbackBuckets call.key)).2⟩) := by
  unfold checkRateLimit checkRedis
  dsimp only
  rw [if_neg henv, Function.update_eq_self]

/-- What the local limiter decides and leaves. -/
theorem checkLocal_spec (hcost : 0 < call.cost) :
    ((checkLocal limiter host call bucket).1.allowed = true ↔
        (poppedBucket limiter call bucket).length + call.cost ≤ limiter.limit call) ∧
      (checkLocal limiter host call bucket).2 = poppedBucket limiter call bucket ++
        (if (checkLocal limiter host call bucket).1.allowed then
          List.replicate call.cost.toNat call.now else []) ∧
      0 ≤ (checkLocal limiter host call bucket).1.remaining := by
  unfold checkLocal
  dsimp only
  split
  · rename_i hfull
    refine ⟨iff_of_false Bool.false_ne_true (by omega), (List.append_nil _).symm, le_refl 0⟩
  · rename_i hroom
    refine ⟨iff_of_true rfl (by omega), rfl, ?_⟩
    dsimp only
    rw [List.length_append, List.length_replicate]
    omega

end Call

/-! ### Runs -/

section Runs

variable {env : Platform} {settings : Settings} {limiter : RedisRateLimiter} {host : SecondsHost}
  {limit window : ℤ} {tier : String} {history : History} {l : LimiterMemory}
  {call : RateLimitCall} {report : RateLimitReport} {calls : List RateLimitCall}

theorem admitted_append (agentId : String) (history history' : History) :
    admitted agentId (history ++ history') = admitted agentId history ++ admitted agentId history' := by
  unfold admitted
  rw [List.filter_append, List.map_append]

/-- What one answer adds. -/
theorem admitted_singleton (agentId : String) (call : RateLimitCall) (report : RateLimitReport) :
    admitted agentId [(call, report)] =
      if report.allowed = true ∧ call.agentId = agentId then [call] else [] := by
  unfold admitted
  by_cases h : report.allowed = true ∧ call.agentId = agentId
  · rw [if_pos h, List.filter_cons_of_pos (by simpa using h)]
    rfl
  · rw [if_neg h, List.filter_cons_of_neg (by simpa using h)]
    rfl

theorem mem_admitted {agentId : String} (h : call ∈ admitted agentId history) :
    call ∈ history.map Prod.fst := by
  obtain ⟨e, he, rfl⟩ := List.mem_map.mp h
  exact List.mem_map_of_mem (List.mem_of_mem_filter he)

theorem admitted_sublist (agentId : String) :
    (admitted agentId history).Sublist (history.map Prod.fst) :=
  List.filter_sublist.map Prod.fst

/-- **The logs of the agents after a call.**  It prunes the log of its agent and adds what it writes
if it is admitted, and the logs go on agreeing with what was admitted. -/
theorem agree_snoc {ε : Type} {P : Pruning ℤ ε} {written : RateLimitCall → List ε}
    {logs : String → List ε}
    (h : ∀ agentId, Agree P (fun c => ∀ call ∈ history.map Prod.fst, call.now - window ≤ c)
      (fun _ => True) (logs (getKey agentId tier)) ((admitted agentId history).flatMap written))
    (agentId : String) :
    Agree P (fun c => ∀ call' ∈ (history ++ [(call, report)]).map Prod.fst, call'.now - window ≤ c)
      (fun _ => True)
      (Function.update logs (getKey call.agentId tier)
        (P.prune (call.now - window) (logs (getKey call.agentId tier)) ++
          if report.allowed then written call else []) (getKey agentId tier))
      ((admitted agentId (history ++ [(call, report)])).flatMap written) := by
  -- a reader that comes after all calls comes after the last
  have hreaders : ∀ c, (∀ call' ∈ (history ++ [(call, report)]).map Prod.fst,
      call'.now - window ≤ c) →
      (∀ call' ∈ history.map Prod.fst, call'.now - window ≤ c) ∧ call.now - window ≤ c := by
    intro c hc
    rw [List.map_append] at hc
    exact ⟨fun call' hcall' => hc call' (List.mem_append_left _ hcall'),
      hc call (List.mem_append_right _ (List.mem_singleton_self call))⟩
  rw [admitted_append, admitted_singleton, List.flatMap_append]
  by_cases hagent : agentId = call.agentId
  · subst hagent
    rw [Function.update_self]
    have hpruned := (h call.agentId).prune_left hreaders
    by_cases hallowed : report.allowed = true
    · rw [if_pos hallowed, if_pos ⟨hallowed, rfl⟩, List.flatMap_singleton]
      exact hpruned.append_all (written call)
    · rw [if_neg hallowed, if_neg fun h => hallowed h.1, List.append_nil, List.flatMap_nil,
        List.append_nil]
      exact hpruned
  · rw [Function.update_of_ne fun he => hagent (getKey_injective he),
      if_neg fun h => hagent h.2.symm, List.flatMap_nil, List.append_nil]
    exact (h agentId).mono fun c hc => (hreaders c hc).1

/-- **The queue of every agent shows what its admitted calls take**, to readers who come no earlier
than the calls so far. -/
def ShowsAdmitted (window : ℤ) (tier : String) (history : History) (l : LimiterMemory) : Prop :=
  ∀ agentId, Agree (unqueue id) (fun c => ∀ call ∈ history.map Prod.fst, call.now - window ≤ c)
    (fun _ => True) (l.fallbackBuckets (getKey agentId tier)) (places (admitted agentId history))

/-- **One call**: it is decided by the window, its rest is not negative, and the queues go on showing
what was admitted. -/
theorem call_step (henv : env.lower settings.environment ≠ "production")
    (hseries : Series limiter limit window tier (history.map Prod.fst ++ [call]))
    (hshows : ShowsAdmitted window tier history l) :
    ((checkRateLimit env settings limiter host .unreachable call l).1.allowed = true ↔
        call.cost + spentSince RateLimitCall.now RateLimitCall.cost (call.now - window)
          (admitted call.agentId history) ≤ limit) ∧
      0 ≤ (checkRateLimit env settings limiter host .unreachable call l).1.remaining ∧
      ShowsAdmitted window tier
        (history ++ [(call, (checkRateLimit env settings limiter host .unreachable call l).1)])
        (checkRateLimit env settings limiter host .unreachable call l).2 := by
  have hmem : call ∈ history.map Prod.fst ++ [call] :=
    List.mem_append_right _ (List.mem_singleton_self call)
  have hcost := hseries.positive call hmem
  have hlimit := hseries.limit call hmem
  have hordered := (List.pairwise_append.mp hseries.ordered).1
  rw [checkRateLimit_unreachable henv]
  dsimp only
  obtain ⟨hallowed, hbucket, hremaining⟩ :=
    @checkLocal_spec limiter host call (l.fallbackBuckets call.key) hcost
  generalize hreport : (checkLocal limiter host call (l.fallbackBuckets call.key)).1 = report
    at hallowed hbucket hremaining
  rw [hbucket]
  unfold poppedBucket at hallowed hbucket ⊢
  rw [hseries.last_clearBefore] at hallowed ⊢
  -- the call sees the places of what its agent was admitted with
  have hsees : (unqueue id).prune (call.now - window) (l.fallbackBuckets call.key) =
      (places (admitted call.agentId history)).filter fun t => call.now - window < t := by
    rw [hseries.last_key, hshows call.agentId _ hseries.last_cutoff fun _ _ => trivial,
      unqueue_of_sorted]
    · rfl
    · exact places_sorted (hordered.sublist (admitted_sublist call.agentId))
  have hspent := @length_places (admitted call.agentId history) (call.now - window)
    fun call' hcall' => le_of_lt (hseries.positive call' (List.mem_append_left _ (mem_admitted hcall')))
  refine ⟨?_, hremaining, fun agentId => ?_⟩
  · rw [hallowed, hlimit, hsees, hspent, add_comm]
  · rw [hseries.last_key]
    exact agree_snoc hshows agentId

/-- **Explained**: every answer is the window's over the answers before it. -/
inductive Explained (limit window : ℤ) : History → Prop
  | nil : Explained limit window []
  | snoc {history : History} {call : RateLimitCall} {report : RateLimitReport}
      (h : Explained limit window history)
      (hdecided : report.allowed = true ↔ call.cost + spentSince RateLimitCall.now RateLimitCall.cost
        (call.now - window) (admitted call.agentId history) ≤ limit)
      (hremaining : 0 ≤ report.remaining) :
      Explained limit window (history ++ [(call, report)])

/-- **A run of the local limiter is explained.** -/
theorem explained_run (henv : env.lower settings.environment ≠ "production")
    (hseries : Series limiter limit window tier (history.map Prod.fst ++ calls))
    (hshows : ShowsAdmitted window tier history l) (h : Explained limit window history) :
    Explained limit window (history ++ (limiterMachine env settings limiter host).trace l
      (calls.map fun call => (RedisCall.unreachable, call))) := by
  induction calls generalizing history l with
  | nil => simpa using h
  | cons call calls ih =>
    obtain ⟨hfirst, hrest⟩ := hseries.split
    obtain ⟨hdecided, hremaining, hshows'⟩ := @call_step env settings limiter host limit window tier
      history l call henv hfirst hshows
    rw [List.map_cons, Machine.trace_cons, ← List.append_assoc]
    exact ih hrest hshows' (h.snoc hdecided hremaining)

theorem Explained.prefix {history' : History} (h : Explained limit window (history ++ history')) :
    Explained limit window history := by
  induction history' using List.reverseRecOn with
  | nil => simpa using h
  | append_singleton history' e ih =>
    rw [← List.append_assoc] at h
    generalize hall : history ++ history' ++ [e] = all at h
    cases h with
    | nil => exact absurd hall (by simp)
    | snoc h _ _ =>
      obtain ⟨rfl, -⟩ := List.append_inj' hall rfl
      exact ih h

/-- What was admitted fitted. -/
theorem Explained.fitted (h : Explained limit window history) (agentId : String) :
    Fitted RateLimitCall.now RateLimitCall.cost limit window (admitted agentId history) := by
  induction h with
  | nil => exact .nil
  | @snoc history call report h hdecided hremaining ih =>
    rw [admitted_append, admitted_singleton]
    split
    · rename_i hadmitted
      obtain ⟨hallowed, rfl⟩ := hadmitted
      have hfit := hdecided.mp hallowed
      rw [add_comm] at hfit
      exact ih.snoc hfit
    · rw [List.append_nil]
      exact ih

theorem Explained.windowed (h : Explained limit window history)
    (hcost : ∀ e ∈ history, 0 < e.1.cost) : Windowed limit window history := by
  refine ⟨?_, fun agentId first last hspan => ?_, ?_⟩
  · rintro before call report after rfl
    have hsplit : before ++ (call, report) :: after = (before ++ [(call, report)]) ++ after := by simp
    rw [hsplit] at h
    have hbefore := h.prefix
    generalize hall : before ++ [(call, report)] = all at hbefore
    cases hbefore with
    | nil => exact absurd hall (by simp)
    | snoc _ hdecided _ =>
      obtain ⟨rfl, hlast⟩ := List.append_inj' hall rfl
      cases hlast
      exact hdecided
  · refine (h.fitted agentId).spentWithin_le (fun call hcall => ?_) hspan
    obtain ⟨e, he, rfl⟩ := List.mem_map.mp (mem_admitted hcall)
    exact le_of_lt (hcost e he)
  · induction h with
    | nil => exact fun _ he => absurd he List.not_mem_nil
    | snoc h _ hremaining ih =>
      intro e he
      rcases List.mem_append.mp he with he | he
      · exact ih (fun e he => hcost e (List.mem_append_left _ he)) e he
      · rw [List.mem_singleton.mp he]
        exact hremaining

/-- The history of a run has its calls. -/
theorem calls_of_trace (redis : RateLimitCall → RedisCall) (calls : List RateLimitCall)
    (l : LimiterMemory) :
    ((limiterMachine env settings limiter host).trace l
      (calls.map fun call => (redis call, call))).map Prod.fst = calls := by
  induction calls generalizing l with
  | nil => rfl
  | cons call calls ih =>
    rw [List.map_cons, Machine.trace_cons, List.map_append, ih]
    rfl

/-- **The calls of one agent** are answered as they are without those of the others. -/
theorem isolated_run (henv : env.lower settings.environment ≠ "production") {agentId : String}
    (htier : ∀ call ∈ calls, call.tier = tier) {l' : LimiterMemory}
    (hsame : l.fallbackBuckets (getKey agentId tier) = l'.fallbackBuckets (getKey agentId tier)) :
    ((limiterMachine env settings limiter host).trace l
        (calls.map fun call => (RedisCall.unreachable, call))).filter
          (fun e => e.1.agentId = agentId) =
      (limiterMachine env settings limiter host).trace l'
        ((calls.filter fun call => call.agentId = agentId).map
          fun call => (RedisCall.unreachable, call)) := by
  induction calls generalizing l l' with
  | nil => rfl
  | cons call calls ih =>
    have hrest : ∀ call ∈ calls, call.tier = tier :=
      fun call hcall => htier call (List.mem_cons_of_mem _ hcall)
    have hkey : call.key = getKey call.agentId tier := by
      rw [RateLimitCall.key, htier call List.mem_cons_self]
    rw [List.map_cons, Machine.trace_cons, List.filter_append]
    by_cases hagent : call.agentId = agentId
    · have hcall : checkLocal limiter host call (l.fallbackBuckets call.key) =
          checkLocal limiter host call (l'.fallbackBuckets call.key) := by
        rw [hkey, hagent, hsame]
      rw [List.filter_cons_of_pos (by simpa using hagent), List.map_cons, Machine.trace_cons]
      congr 1
      · show List.filter _ [(call, _)] = [(call, _)]
        rw [List.filter_cons_of_pos (by simpa using hagent), List.filter_nil]
        dsimp only
        rw [checkRateLimit_unreachable henv, checkRateLimit_unreachable henv, hcall]
      · refine ih hrest ?_
        show (checkRateLimit env settings limiter host .unreachable call l).2.fallbackBuckets _ =
          (checkRateLimit env settings limiter host .unreachable call l').2.fallbackBuckets _
        rw [checkRateLimit_unreachable henv, checkRateLimit_unreachable henv, hcall, hkey, hagent]
        dsimp only
        rw [Function.update_self, Function.update_self]
    · rw [List.filter_cons_of_neg (by simpa using hagent)]
      have hother : List.filter (fun e : RateLimitCall × RateLimitReport => e.1.agentId = agentId)
          [(call, (checkRateLimit env settings limiter host .unreachable call l).1)] = [] :=
        List.filter_cons_of_neg (by simpa using hagent)
      show List.filter _ [(call, _)] ++ _ = _
      rw [hother, List.nil_append]
      refine ih hrest ?_
      show (checkRateLimit env settings limiter host .unreachable call l).2.fallbackBuckets _ = _
      rw [checkRateLimit_unreachable henv, hkey]
      dsimp only
      rw [Function.update_of_ne fun he => hagent (getKey_injective he).symm, hsame]

end Runs

/-- **The local limiter meets its specification**: over every series of calls of any agents it is a
sliding window, and the answers to one agent are those it gets without the others. -/
theorem local_limiter_windowed (env : Platform) (settings : Settings) (limiter : RedisRateLimiter)
    (host : SecondsHost) (limit window : ℤ) (tier : String) (calls : List RateLimitCall)
    (henv : env.lower settings.environment ≠ "production")
    (hseries : Series limiter limit window tier calls) :
    Windowed limit window (localHistory env settings limiter host calls) ∧
      ∀ agentId, (localHistory env settings limiter host calls).filter
          (fun e => e.1.agentId = agentId) =
        localHistory env settings limiter host
          (calls.filter fun call => call.agentId = agentId) := by
  have hstart : ShowsAdmitted window tier [] .empty := fun _ => Agree.refl _ _ _ _
  have hexplained := @explained_run env settings limiter host limit window tier [] .empty calls henv
    hseries hstart .nil
  refine ⟨hexplained.windowed fun e he => ?_, fun agentId => isolated_run henv hseries.tier rfl⟩
  have hcall := List.mem_map_of_mem (f := Prod.fst) he
  rw [List.nil_append, calls_of_trace fun _ => .unreachable] at hcall
  exact hseries.positive e.1 hcall

namespace Sample

/-- A host that does not round. -/
def seconds : SecondsHost where
  round2 x := x
  text x := if x = 0 then "0.0" else if x = 1000000 then "1.0" else toString x
  round2_mono _ _ h := h
  round2_tenth := rfl
  text_zero := rfl
  text_one := rfl

/-- A limiter of two places. -/
def twoPlaces : RedisRateLimiter := ⟨2, 60⟩

/-- A call of the standard tier under the default limit and window. -/
def call (agentId : String) (cost now perfCounterNs : ℤ) : RateLimitCall :=
  ⟨agentId, cost, none, none, "standard", now, perfCounterNs⟩

def calls : List RateLimitCall :=
  [call "agent-a" 1 0 1, call "agent-a" 1 1 2, call "agent-a" 1 2 3, call "agent-b" 1 3 4]

theorem series : Series twoPlaces 2 60000000 "standard" calls where
  ordered := by decide
  positive := by decide
  tier := by decide
  limit := by decide
  window := by decide

end Sample

open Sample ControlPlane.Sample in
/-- Two places for one agent, and none of them taken from the other. -/
theorem local_limiter_windowed_twoPlaces :
    (localHistory platform settings twoPlaces seconds calls).map (fun e => e.2.allowed) =
        [true, true, false, true] ∧
      Windowed 2 60000000 (localHistory platform settings twoPlaces seconds calls) :=
  ⟨by decide +kernel, (local_limiter_windowed _ _ _ _ _ _ "standard" _ (by decide) series).1⟩

end MandatePlane.LocalLimiter

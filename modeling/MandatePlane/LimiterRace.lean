import MandatePlane.LocalLimiter
import Mathlib.Data.List.Induction
import Mathlib.Data.List.Perm.Subperm

/-!
# API processes at one sorted set

The transaction that prunes, counts and adds is atomic.  A call that was refused takes its
entry away afterwards and then reads the oldest one, and between these the transactions of
other calls see the set.  Entries of refused calls make the count too large, which admits
fewer calls, not more.

Entries are told apart by their names alone: the time, the cost and a reading of
`time.perf_counter_ns`.  Two calls that read the same on both clocks share one entry, and
the one that is refused takes it away from the one that was admitted.
-/

namespace MandatePlane.LimiterRace

open LabelledRun PrunedLog SlidingWindow LimiterCalls LocalLimiter
open RateLimiter (RedisCall)

/-! ### The processes -/

/-- The sorted set of the key and when it expires, and the refused calls, with what they counted:
those that have yet to take their entry away, and those that have yet to read the oldest one. -/
structure RedisState where
  entries : List Member
  expiresAt : Option ℤ
  reverting : List (RateLimitCall × ℕ)
  ranging : List (RateLimitCall × ℕ)

/-- No key and no call. -/
def RedisState.empty : RedisState := ⟨[], none, [], []⟩

/-- A call's transaction, the `ZREM` or the `ZRANGE` of one of the waiting calls, or a time at which
Redis expires the key if it is due. -/
inductive RedisStep where
  | pipeline (call : RateLimitCall)
  | zrem (waiting : ℕ)
  | zrange (waiting : ℕ)
  | expire (now : ℤ)

/-- Ten seconds, which a key outlives its window by. -/
def grace : ℤ := 10000000

def answer (limiter : RedisRateLimiter) (host : SecondsHost) (s : RedisState) :
    RedisStep → RedisState × History
  | .pipeline call =>
    let counted := (pipeline limiter call s.entries).1
    let s := { s with
      entries := (pipeline limiter call s.entries).2
      expiresAt := some (call.now + limiter.window call + grace) }
    if exceeds limiter call counted.length then
      ({ s with reverting := s.reverting ++ [(call, counted.length)] }, [])
    else (s, [(call, redisAllowed limiter call counted.length)])
  | .zrem waiting =>
    match s.reverting[waiting]? with
    | none => (s, [])
    | some w => ({ s with
        entries := LimiterCalls.zrem w.1.member s.entries
        reverting := s.reverting.eraseIdx waiting
        ranging := s.ranging ++ [w] }, [])
  | .zrange waiting =>
    match s.ranging[waiting]? with
    | none => (s, [])
    | some w => ({ s with ranging := s.ranging.eraseIdx waiting },
        [(w.1, redisExceeded limiter host w.1 w.2 s.entries)])
  | .expire now =>
    match s.expiresAt with
    | none => (s, [])
    | some t => if t ≤ now then ({ s with entries := [], expiresAt := none }, []) else (s, [])

/-- Any number of processes at the set, one statement at a time; the log has the answers. -/
def redisMachine (limiter : RedisRateLimiter) (host : SecondsHost) :
    Machine RedisState RedisStep (RateLimitCall × RateLimitReport) where
  next s step := (answer limiter host s step).1
  log s step := (answer limiter host s step).2

/-- **A call by itself** is the `try` block of `check_rate_limit`. -/
theorem call_alone (limiter : RedisRateLimiter) (host : SecondsHost) (call : RateLimitCall)
    (entries : List Member) (expiresAt : Option ℤ) :
    ∃ report, (redisMachine limiter host).trace ⟨entries, expiresAt, [], []⟩
        [.pipeline call, .zrem 0, .zrange 0] = [(call, report)] ∧
      checkRedis limiter host .answers call entries = (some report,
        ((redisMachine limiter host).run ⟨entries, expiresAt, [], []⟩
          [.pipeline call, .zrem 0, .zrange 0]).entries) := by
  simp only [Machine.trace_cons, Machine.trace_nil, Machine.run_cons, Machine.run_nil]
  unfold redisMachine checkRedis
  dsimp only
  by_cases hfull : exceeds limiter call (pipeline limiter call entries).1.length = true
  · simp [answer, hfull]
  · simp [answer, hfull]

/-! ### What is admitted -/

/-- The calls a run of the processes makes. -/
def RedisStep.call? : RedisStep → Option RateLimitCall
  | .pipeline call => some call
  | _ => none

/-- When a step happens, if it has a time. -/
def RedisStep.time? : RedisStep → Option ℤ
  | .pipeline call => some call.now
  | .expire now => some now
  | _ => none

/-- **A race** of calls of one agent under one tier, each with a cost of one, under one limit and
window, at times that do not go back. -/
structure Race (limiter : RedisRateLimiter) (agentId tier : String) (limit window : ℤ)
    (steps : List RedisStep) : Prop where
  ordered : (steps.filterMap RedisStep.time?).Pairwise (· ≤ ·)
  agent : ∀ call ∈ steps.filterMap RedisStep.call?, call.agentId = agentId ∧ call.tier = tier
  cost : ∀ call ∈ steps.filterMap RedisStep.call?, call.cost = 1
  limit : ∀ call ∈ steps.filterMap RedisStep.call?, limiter.limit call = limit
  window : ∀ call ∈ steps.filterMap RedisStep.call?, limiter.window call = window

/-- The calls whose entries have different names. -/
def Distinct (steps : List RedisStep) : Prop :=
  ((steps.filterMap RedisStep.call?).map RateLimitCall.member).Nodup

/-- The calls that were admitted. -/
def admissions (history : History) : List RateLimitCall :=
  (history.filter fun e => e.2.allowed).map Prod.fst

/-- **Never too many**: no span that is shorter than the window has more admitted calls than the
limit. -/
def NeverOver (limit window : ℤ) (history : History) : Prop :=
  ∀ first last, last - first < window →
    ((admissions history).filter fun call => first ≤ call.now ∧ call.now ≤ last).length ≤ limit.toNat

/-- **The invariant.**  An admitted call that is younger than every cutoff so far has its entry, which
no refused call is about to take away, and the key does not expire before it is too old. -/
structure Held (limit window : ℤ) (done : List RedisStep) (admitted : List RateLimitCall)
    (s : RedisState) : Prop where
  fitted : Fitted RateLimitCall.now (fun _ => 1) limit window admitted
  kept : ∀ call ∈ admitted, (∀ t ∈ done.filterMap RedisStep.time?, t - window < call.now) →
    call.member ∈ s.entries
  apart : ((admitted ++ s.reverting.map Prod.fst).map RateLimitCall.member).Nodup
  made : ∀ call ∈ admitted ++ s.reverting.map Prod.fst, call ∈ done.filterMap RedisStep.call?
  due : ∀ t, s.expiresAt = some t → ∀ call ∈ admitted, call.now + window + grace ≤ t

theorem admissions_append (history history' : History) :
    admissions (history ++ history') = admissions history ++ admissions history' := by
  unfold admissions
  rw [List.filter_append, List.map_append]

/-- A call was made at its time. -/
theorem time_of_call {steps : List RedisStep} {call : RateLimitCall}
    (h : call ∈ steps.filterMap RedisStep.call?) : call.now ∈ steps.filterMap RedisStep.time? := by
  obtain ⟨step, hstep, hcall⟩ := List.mem_filterMap.mp h
  refine List.mem_filterMap.mpr ⟨step, hstep, ?_⟩
  cases step with
  | pipeline call' =>
    cases hcall
    rfl
  | zrem waiting => cases hcall
  | zrange waiting => cases hcall
  | expire now => cases hcall

section Steps

variable {limiter : RedisRateLimiter} {host : SecondsHost} {limit window : ℤ}
  {done : List RedisStep} {admitted : List RateLimitCall} {s : RedisState} {call : RateLimitCall}

theorem calls_snoc : (done ++ [RedisStep.pipeline call]).filterMap RedisStep.call? =
    done.filterMap RedisStep.call? ++ [call] := by
  rw [List.filterMap_append]
  rfl

theorem times_snoc : (done ++ [RedisStep.pipeline call]).filterMap RedisStep.time? =
    done.filterMap RedisStep.time? ++ [call.now] := by
  rw [List.filterMap_append]
  rfl

/-- What a transaction leaves of the entries that are younger than its cutoff. -/
theorem mem_pipeline (hwindow : limiter.window call = window) {m : Member} (hm : m ∈ s.entries)
    (hyoung : call.now - window < m.now) : m ∈ (pipeline limiter call s.entries).1 := by
  refine List.mem_filter.mpr ⟨hm, decide_eq_true ?_⟩
  rw [RedisRateLimiter.clearBefore, hwindow]
  exact hyoung

theorem mem_added {m : Member} (hm : m ∈ (pipeline limiter call s.entries).1 ∨ m = call.member) :
    m ∈ (pipeline limiter call s.entries).2 := by
  show m ∈ zadd call.member (pipeline limiter call s.entries).1
  unfold zadd
  split
  · rename_i hthere
    rcases hm with hm | rfl
    · exact hm
    · exact hthere
  · rcases hm with hm | rfl
    · exact List.mem_append_left _ hm
    · exact List.mem_append_right _ (List.mem_singleton_self _)

/-- **A transaction counts what was admitted in the window.** -/
theorem Held.counted (h : Held limit window done admitted s)
    (htimes : ∀ t ∈ done.filterMap RedisStep.time?, t ≤ call.now)
    (hwindow : limiter.window call = window) :
    spentSince RateLimitCall.now (fun _ => 1) (call.now - window) admitted ≤
      (pipeline limiter call s.entries).1.length := by
  have hnodup : ((admitted.filter fun c => call.now - window < c.now).map
      RateLimitCall.member).Nodup := by
    have hall := h.apart
    rw [List.map_append] at hall
    exact (List.nodup_append.mp hall).1.sublist (List.filter_sublist.map _)
  have hsub : (admitted.filter fun c => call.now - window < c.now).map
      RateLimitCall.member ⊆ (pipeline limiter call s.entries).1 := by
    intro m hm
    obtain ⟨c, hc, rfl⟩ := List.mem_map.mp hm
    obtain ⟨hadmitted, hyoung⟩ := List.mem_filter.mp hc
    have hyoung := of_decide_eq_true hyoung
    refine mem_pipeline hwindow (h.kept c hadmitted fun t ht => ?_) hyoung
    exact lt_of_le_of_lt (sub_le_sub_right (htimes t ht) window) hyoung
  have hle := (List.subperm_of_subset hnodup hsub).length_le
  rw [List.length_map] at hle
  unfold spentSince
  rw [List.map_const', List.sum_replicate, nsmul_one]
  exact_mod_cast hle

/-- The younger entries outlast a transaction. -/
theorem Held.kept_pipeline (h : Held limit window done admitted s)
    (hwindow : limiter.window call = window) {c : RateLimitCall} (hc : c ∈ admitted)
    (hyoung : ∀ t ∈ (done ++ [RedisStep.pipeline call]).filterMap RedisStep.time?,
      t - window < c.now) : c.member ∈ (pipeline limiter call s.entries).2 := by
  rw [times_snoc] at hyoung
  have hold := h.kept c hc fun t ht => hyoung t (List.mem_append_left _ ht)
  exact mem_added (.inl (mem_pipeline hwindow hold
    (hyoung call.now (List.mem_append_right _ (List.mem_singleton_self _)))))

theorem Held.due_pipeline (h : Held limit window done admitted s)
    (htimes : ∀ t ∈ done.filterMap RedisStep.time?, t ≤ call.now)
    (hwindow : limiter.window call = window) {c : RateLimitCall} (hc : c ∈ admitted) :
    c.now + window + grace ≤ call.now + limiter.window call + grace := by
  have hle := htimes c.now (time_of_call (h.made c (List.mem_append_left _ hc)))
  rw [hwindow]
  omega

/-- A new name is the name of no call that was admitted or is about to be taken back. -/
theorem Held.fresh (h : Held limit window done admitted s)
    (hnew : call.member ∉ (done.filterMap RedisStep.call?).map RateLimitCall.member) :
    call.member ∉ (admitted ++ s.reverting.map Prod.fst).map RateLimitCall.member := by
  intro hm
  obtain ⟨c, hc, he⟩ := List.mem_map.mp hm
  exact hnew (List.mem_map.mpr ⟨c, h.made c hc, he⟩)

/-- **A refused call** waits to take its entry away. -/
theorem Held.refused (h : Held limit window done admitted s)
    (htimes : ∀ t ∈ done.filterMap RedisStep.time?, t ≤ call.now)
    (hwindow : limiter.window call = window)
    (hnew : call.member ∉ (done.filterMap RedisStep.call?).map RateLimitCall.member) (n : ℕ) :
    Held limit window (done ++ [RedisStep.pipeline call]) admitted
      { s with
        entries := (pipeline limiter call s.entries).2
        expiresAt := some (call.now + limiter.window call + grace)
        reverting := s.reverting ++ [(call, n)] } := by
  have hwaiting : admitted ++ (s.reverting ++ [(call, n)]).map Prod.fst =
      (admitted ++ s.reverting.map Prod.fst) ++ [call] := by
    rw [List.map_append, List.append_assoc]
    rfl
  refine ⟨h.fitted, fun c hc hyoung => h.kept_pipeline hwindow hc hyoung, ?_, ?_, ?_⟩
  · dsimp only
    rw [hwaiting, List.map_append, List.nodup_append]
    refine ⟨h.apart, List.nodup_singleton _, fun m hm m' hm' he => h.fresh hnew ?_⟩
    rw [List.map_singleton, List.mem_singleton] at hm'
    exact hm' ▸ he ▸ hm
  · dsimp only
    rw [hwaiting, calls_snoc]
    exact fun c hc => (List.mem_append.mp hc).elim (fun hc => List.mem_append_left _ (h.made c hc))
      fun hc => List.mem_append_right _ hc
  · rintro t ⟨⟩ c hc
    exact h.due_pipeline htimes hwindow hc

/-- **An admitted call** found room for it among what was admitted before. -/
theorem Held.granted (h : Held limit window done admitted s)
    (htimes : ∀ t ∈ done.filterMap RedisStep.time?, t ≤ call.now)
    (hwindow : limiter.window call = window)
    (hnew : call.member ∉ (done.filterMap RedisStep.call?).map RateLimitCall.member)
    (hroom : (pipeline limiter call s.entries).1.length + 1 ≤ limit) :
    Held limit window (done ++ [RedisStep.pipeline call]) (admitted ++ [call])
      { s with
        entries := (pipeline limiter call s.entries).2
        expiresAt := some (call.now + limiter.window call + grace) } := by
  have hcounted := h.counted htimes hwindow
  refine ⟨h.fitted.snoc (by omega), ?_, ?_, ?_, ?_⟩
  · intro c hc hyoung
    rcases List.mem_append.mp hc with hc | hc
    · exact h.kept_pipeline hwindow hc hyoung
    · rw [List.mem_singleton.mp hc]
      exact mem_added (.inr rfl)
  · have hperm : (admitted ++ [call] ++ s.reverting.map Prod.fst).Perm
        (call :: (admitted ++ s.reverting.map Prod.fst)) := by
      rw [List.append_assoc]
      exact List.perm_middle
    rw [(hperm.map RateLimitCall.member).nodup_iff, List.map_cons, List.nodup_cons]
    exact ⟨h.fresh hnew, h.apart⟩
  · intro c hc
    rw [calls_snoc]
    rcases List.mem_append.mp hc with hc | hc
    · rcases List.mem_append.mp hc with hc | hc
      · exact List.mem_append_left _ (h.made c (List.mem_append_left _ hc))
      · exact List.mem_append_right _ hc
    · exact List.mem_append_left _ (h.made c (List.mem_append_right _ hc))
  · rintro t ⟨⟩ c hc
    rcases List.mem_append.mp hc with hc | hc
    · exact h.due_pipeline htimes hwindow hc
    · rw [List.mem_singleton.mp hc, hwindow]

/-- Steps that make no call. -/
theorem calls_skip {step : RedisStep} (h : step.call? = none) :
    (done ++ [step]).filterMap RedisStep.call? = done.filterMap RedisStep.call? := by
  rw [List.filterMap_append, List.filterMap_cons_none h, List.filterMap_nil, List.append_nil]

/-- What holds of all times holds of those before the last step. -/
theorem times_of_snoc {step : RedisStep} {p : ℤ → Prop}
    (h : ∀ t ∈ (done ++ [step]).filterMap RedisStep.time?, p t) :
    ∀ t ∈ done.filterMap RedisStep.time?, p t := by
  intro t ht
  refine h t ?_
  rw [List.filterMap_append]
  exact List.mem_append_left _ ht

/-- A step that makes no call and changes no entry. -/
theorem Held.skip (h : Held limit window done admitted s) {step : RedisStep}
    (hcall : step.call? = none) : Held limit window (done ++ [step]) admitted s := by
  refine ⟨h.fitted, fun c hc hyoung => h.kept c hc (times_of_snoc hyoung), h.apart, ?_, h.due⟩
  rw [calls_skip hcall]
  exact h.made

/-- **A refused call takes its entry away**, which is that of no admitted call. -/
theorem Held.reverted (h : Held limit window done admitted s) {waiting : ℕ}
    {w : RateLimitCall × ℕ} (hw : s.reverting[waiting]? = some w) :
    Held limit window (done ++ [RedisStep.zrem waiting]) admitted
      { s with
        entries := LimiterCalls.zrem w.1.member s.entries
        reverting := s.reverting.eraseIdx waiting
        ranging := s.ranging ++ [w] } := by
  have hsub : ((admitted ++ (s.reverting.eraseIdx waiting).map Prod.fst)).Sublist
      (admitted ++ s.reverting.map Prod.fst) :=
    (List.Sublist.refl _).append ((List.eraseIdx_sublist _ _).map _)
  refine ⟨h.fitted, fun c hc hyoung => ?_, h.apart.sublist (hsub.map _), ?_, h.due⟩
  · have hthere := h.kept c hc (times_of_snoc hyoung)
    have hwaits : w.1.member ∈ (s.reverting.map Prod.fst).map RateLimitCall.member :=
      List.mem_map_of_mem (List.mem_map_of_mem (List.mem_of_getElem? hw))
    have hapart := h.apart
    rw [List.map_append] at hapart
    have hne := (List.nodup_append.mp hapart).2.2 _ (List.mem_map_of_mem hc) _ hwaits
    exact List.mem_filter.mpr ⟨hthere, decide_eq_true hne⟩
  · rw [calls_skip rfl]
    exact fun c hc => h.made c (hsub.subset hc)

/-- **The key expires** only when every admitted call is too old to count. -/
theorem Held.expired (h : Held limit window done admitted s) {now t : ℤ}
    (ht : s.expiresAt = some t) (hdue : t ≤ now) :
    Held limit window (done ++ [RedisStep.expire now]) admitted
      { s with entries := [], expiresAt := none } := by
  refine ⟨h.fitted, fun c hc hyoung => ?_, h.apart, ?_, fun t ht => nomatch ht⟩
  · have hold := h.due t ht c hc
    have hyoung := hyoung now (List.mem_filterMap.mpr
      ⟨.expire now, List.mem_append_right _ (List.mem_singleton_self _), rfl⟩)
    unfold grace at hold
    omega
  · rw [calls_skip rfl]
    exact h.made

end Steps

section Runs

variable {limiter : RedisRateLimiter} {host : SecondsHost} {agentId tier : String}
  {limit window : ℤ} {steps : List RedisStep} {step : RedisStep}

/-- The steps before the last one are a race too. -/
theorem Race.init (h : Race limiter agentId tier limit window (steps ++ [step])) :
    Race limiter agentId tier limit window steps := by
  have hcalls : ∀ call ∈ steps.filterMap RedisStep.call?,
      call ∈ (steps ++ [step]).filterMap RedisStep.call? := by
    intro call hcall
    rw [List.filterMap_append]
    exact List.mem_append_left _ hcall
  have hordered := h.ordered
  rw [List.filterMap_append] at hordered
  exact ⟨(List.pairwise_append.mp hordered).1, fun call hc => h.agent call (hcalls call hc),
    fun call hc => h.cost call (hcalls call hc), fun call hc => h.limit call (hcalls call hc),
    fun call hc => h.window call (hcalls call hc)⟩

theorem Distinct.init (h : Distinct (steps ++ [step])) : Distinct steps := by
  unfold Distinct at h ⊢
  rw [List.filterMap_append, List.map_append] at h
  exact (List.nodup_append.mp h).1

/-- **What one step keeps.** -/
theorem Held.snoc {admitted : List RateLimitCall} {s : RedisState}
    (h : Held limit window steps admitted s)
    (hrace : Race limiter agentId tier limit window (steps ++ [step]))
    (hdistinct : Distinct (steps ++ [step])) :
    Held limit window (steps ++ [step]) (admitted ++ admissions (answer limiter host s step).2)
      (answer limiter host s step).1 := by
  have hnone : admitted ++ admissions [] = admitted := List.append_nil admitted
  cases step with
  | pipeline call =>
    have hcall : call ∈ (steps ++ [RedisStep.pipeline call]).filterMap RedisStep.call? := by
      rw [calls_snoc]
      exact List.mem_append_right _ (List.mem_singleton_self _)
    have hwindow := hrace.window call hcall
    have htimes : ∀ t ∈ steps.filterMap RedisStep.time?, t ≤ call.now := by
      have hordered := hrace.ordered
      rw [times_snoc] at hordered
      exact fun t ht => (List.pairwise_append.mp hordered).2.2 t ht _ (List.mem_singleton_self _)
    have hnew : call.member ∉ (steps.filterMap RedisStep.call?).map RateLimitCall.member := by
      intro hm
      unfold Distinct at hdistinct
      rw [calls_snoc, List.map_append] at hdistinct
      exact (List.nodup_append.mp hdistinct).2.2 _ hm _ (List.mem_singleton_self _) rfl
    unfold answer
    dsimp only
    by_cases hfull : exceeds limiter call (pipeline limiter call s.entries).1.length = true
    · rw [if_pos hfull, hnone]
      exact h.refused htimes hwindow hnew _
    · rw [if_neg hfull]
      refine h.granted htimes hwindow hnew ?_
      unfold exceeds at hfull
      rw [decide_eq_true_eq, hrace.cost call hcall, hrace.limit call hcall] at hfull
      omega
  | zrem waiting =>
    unfold answer
    dsimp only
    cases hw : s.reverting[waiting]? with
    | none =>
      dsimp only
      rw [hnone]
      exact h.skip rfl
    | some w =>
      dsimp only
      rw [hnone]
      exact h.reverted hw
  | zrange waiting =>
    unfold answer
    dsimp only
    cases hw : s.ranging[waiting]? with
    | none =>
      dsimp only
      rw [hnone]
      exact h.skip rfl
    | some w =>
      -- the answer is a refusal
      have hrefusal : admitted ++ admissions [(w.1, redisExceeded limiter host w.1 w.2 s.entries)] =
          admitted := List.append_nil admitted
      dsimp only
      rw [hrefusal]
      have hskip := @Held.skip limit window steps admitted s h (.zrange waiting) rfl
      exact ⟨hskip.fitted, hskip.kept, hskip.apart, hskip.made, hskip.due⟩
  | expire now =>
    unfold answer
    dsimp only
    cases ht : s.expiresAt with
    | none =>
      dsimp only
      rw [hnone]
      exact h.skip rfl
    | some t =>
      dsimp only
      by_cases hdue : t ≤ now
      · rw [if_pos hdue, hnone]
        exact h.expired ht hdue
      · rw [if_neg hdue, hnone]
        exact h.skip rfl

/-- **What every run keeps.** -/
theorem held_run (hrace : Race limiter agentId tier limit window steps)
    (hdistinct : Distinct steps) :
    Held limit window steps (admissions ((redisMachine limiter host).trace .empty steps))
      ((redisMachine limiter host).run .empty steps) := by
  induction steps using List.reverseRecOn with
  | nil =>
    refine ⟨.nil, fun c hc => ?_, List.nodup_nil, fun c hc => ?_, fun t ht => nomatch ht⟩
    · cases hc
    · cases hc
  | append_singleton steps step ih =>
    rw [Machine.trace_append, Machine.run_append, admissions_append]
    have hstep := @Held.snoc limiter host agentId tier limit window steps step _ _
      (ih hrace.init hdistinct.init) hrace hdistinct
    rwa [Machine.trace_cons, Machine.trace_nil, List.append_nil]

end Runs

/-- **The limiter never admits too many** of the calls whose entries have different names, whatever
the order of the processes' steps. -/
theorem never_over (limiter : RedisRateLimiter) (host : SecondsHost) (agentId tier : String)
    (limit window : ℤ) (steps : List RedisStep)
    (hrace : Race limiter agentId tier limit window steps) (hdistinct : Distinct steps) :
    NeverOver limit window ((redisMachine limiter host).trace .empty steps) := by
  intro first last hspan
  have hle := (@held_run limiter host agentId tier limit window steps hrace
    hdistinct).fitted.spentWithin_le (fun _ _ => Int.one_nonneg) hspan
  unfold spentWithin at hle
  rw [List.map_const', List.sum_replicate, nsmul_one] at hle
  have hnat : max limit 0 = (limit.toNat : ℤ) := by omega
  rw [hnat] at hle
  exact_mod_cast hle

namespace Sample

/-- A limiter of one place. -/
def onePlace : RedisRateLimiter := ⟨1, 60⟩

/-- Two processes call at one time and one reading of the counter each, and a third call follows the
removal of the refused entry. -/
def threeCalls (perfCounterNs : ℤ) : List RedisStep :=
  [.pipeline (LocalLimiter.Sample.call "agent-a" 1 0 7),
    .pipeline (LocalLimiter.Sample.call "agent-a" 1 0 perfCounterNs), .zrem 0,
    .pipeline (LocalLimiter.Sample.call "agent-a" 1 1 9), .zrange 0]

end Sample

open Sample

/-- Two processes with different readings: one of the three calls is admitted. -/
theorem never_over_threeCalls :
    NeverOver 1 60000000
      ((redisMachine onePlace LocalLimiter.Sample.seconds).trace .empty (threeCalls 8)) := by
  have hrace : Race onePlace "agent-a" "standard" 1 60000000 (threeCalls 8) :=
    ⟨by decide, by decide, by decide, by decide, by decide⟩
  have hdistinct : Distinct (threeCalls 8) := by
    unfold Distinct
    decide
  exact never_over onePlace _ "agent-a" "standard" 1 60000000 _ hrace hdistinct

/-- **Two processes with one reading.**  The refused call takes the entry of the admitted one away,
and the third call finds the set empty. -/
theorem over_by_shared_entry :
    Race onePlace "agent-a" "standard" 1 60000000 (threeCalls 7) ∧
      ¬ NeverOver 1 60000000
        ((redisMachine onePlace LocalLimiter.Sample.seconds).trace .empty (threeCalls 7)) := by
  refine ⟨⟨by decide, by decide, by decide, by decide, by decide⟩, fun h => ?_⟩
  have htwo : ((admissions ((redisMachine onePlace LocalLimiter.Sample.seconds).trace .empty
      (threeCalls 7))).filter fun call => 0 ≤ call.now ∧ call.now ≤ 1).length = 2 := by
    decide +kernel
  have hle := h 0 1 (by decide)
  rw [htwo] at hle
  exact absurd hle (by decide)

end MandatePlane.LimiterRace

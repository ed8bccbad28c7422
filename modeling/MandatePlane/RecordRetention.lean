import MandatePlane.AuditHistory
import MandatePlane.DeploymentInvariants

/-!
# What a deployment never loses

Outside a reset nothing that was recorded goes away: the orders of the operations, the terms
of the mandates, the links of the transactions, and the audit log, which is extended at its end
and lists the operations stored meanwhile.

Four calls reset outside production: the reset, the journey, a startup that finds no agent, and
a benchmark that finds no agent or no ACTIVE mandate to run under.
-/

namespace MandatePlane.RecordRetention

open DomainModel KeyedTable LabelledRun LedgerView HostEnvironment HandlerPostings MandateSteps
open WebhookRoutes ControlPlane AgentChat ActiveMandates TransactionLinks AuditHistory AgentRoutes
open DemoRoutes EvaluationRoutes Deployment DeploymentInvariants

/-! ### Retained records -/

/-- Everything recorded in the first store is recorded in the second one. -/
structure Retained (s s' : Store) : Prop where
  listed : Listed s s'
  orders : ∀ id op, (orders s).find? id = some op → (LedgerView.orders s').find? id = some op
  terms : ∀ id m, (terms s).find? id = some m → (LedgerView.terms s').find? id = some m
  links : links s <+: LedgerView.links s'

section Retained

variable {env : Platform} {settings : Settings} {P : Store → Call → Prop} {s s' s'' : Store}
  {j : List JournalEntry}

theorem Retained.refl (s : Store) : Retained s s :=
  ⟨.refl s, fun _ _ h => h, fun _ _ h => h, List.prefix_rfl⟩

theorem Retained.trans (h : Retained s s') (h' : Retained s' s'') : Retained s s'' :=
  ⟨h.listed.trans h'.listed, fun id op hop => h'.orders id op (h.orders id op hop),
    fun id m hm => h'.terms id m (h.terms id m hm), h.links.trans h'.links⟩

/-- A change that touches statuses, counters and the log only. -/
theorem Retained.of_same (happends : Appends NotEvaluation s s')
    (horders : LedgerView.orders s' = LedgerView.orders s)
    (hterms : LedgerView.terms s' = LedgerView.terms s)
    (hlinks : LedgerView.links s' = LedgerView.links s) : Retained s s' := by
  refine ⟨happends.listed horders, fun id op hop => ?_, fun id m hm => ?_, ?_⟩
  · rwa [horders]
  · rwa [hterms]
  · rw [hlinks]

/-- A call of the interactive plane keeps every record. -/
theorem retained_answer (c : Call) : Retained s (answer env settings s c).1 := by
  refine ⟨listed_call c, fun id op hop => ?_, fun id m hm => ?_, ?_⟩
  all_goals
    have hcall := answer_step env settings s c
    generalize answer env settings s c = done at hcall ⊢
    obtain ⟨s', events⟩ := done
  · cases hcall with
    | control h => exact h.orders_kept hop
    | silent => exact hop
    | reissued _ => exact hop
  · cases hcall with
    | control h => exact h.terms_kept hm
    | silent => exact hm
    | reissued hinsert =>
      exact Table.find?_insert_of_some (Table.mapRows_insert key_termsOf hinsert) hm
  · cases hcall with
    | control h =>
      rcases link_added h with he | ⟨id, order, he, -, -⟩
      · rw [he]
      · rw [he]
        exact List.prefix_append _ _
    | silent => exact List.prefix_rfl
    | reissued _ => exact List.prefix_rfl

/-- **Every step that is no reset keeps every record.** -/
theorem retained_step (hstep : TableStep env settings P s j s') (hquiet : .cleared ∉ j) :
    Retained s s' := by
  cases hstep with
  | called c _ => exact retained_answer c
  | captured hcaptured =>
    have hprocessed := processDomainWebhookEvent_spec hcaptured
    obtain ⟨hexplained, horders⟩ := hprocessed.explained
    exact .of_same (processed_appends hprocessed) horders
      (terms_of_allotments (allotments_of_grants hexplained.grants)) (processed_links hprocessed)
  | enrolled principals agents _ => exact .of_same (.of_eq rfl) rfl rfl rfl
  | cleared inputs _ => exact absurd (List.mem_singleton_self _) hquiet

theorem retained_path (h : Path env settings P s j s') (hquiet : .cleared ∉ j) : Retained s s' := by
  induction h with
  | refl => exact .refl s
  | step _ hstep ih =>
    rw [List.mem_append, not_or] at hquiet
    exact (ih hquiet.1).trans (retained_step hstep hquiet.2)

theorem retained_converge (op : FinancialOperation) (s : Store) : Retained s (converge op s) := by
  have hterms : LedgerView.terms (converge op s) = LedgerView.terms (s.updateOperation op.id
      (.moveTo .succeeded) (FinancialOperation.moveTo_key .succeeded)) :=
    terms_columns _ fun _ => rfl
  exact .of_same (.of_eq rfl) (orders_converge op s) hterms rfl

end Retained

/-! ### The calls that reset -/

section Runs

variable {env : Platform} {settings : Settings} {host : Host} {d : Dataset} {c : DeploymentCall}

/-- A call that keeps quiet about resets keeps every record. -/
theorem retained_deploy (hquiet : .cleared ∉ (deploy env settings host d c).2) :
    Retained d.store (deploy env settings host d c).1.store := by
  have hpath := deploy_anyPath env settings host d c
  generalize deploy env settings host d c = done at hpath hquiet ⊢
  obtain ⟨d', journal⟩ := done
  dsimp only at hpath hquiet ⊢
  generalize d'.store = s' at hpath ⊢
  cases hpath with
  | quiet h => exact retained_path h hquiet
  | converging h _ _ =>
    rw [List.mem_append, not_or] at hquiet
    exact (retained_path h hquiet.1).trans (retained_converge _ _)

/-- **The calls that reset the deployment.** -/
def Clears (env : Platform) (settings : Settings) (d : Dataset) : DeploymentCall → Prop
  | .reset _ => inProduction env settings = false
  | .journey _ _ _ _ => inProduction env settings = false
  | .benchmark payload _ _ => inProduction env settings = false ∧
      ∃ subject, benchmarkSubject payload.agentId d.store = .ok subject ∧ subject.pair = none
  | .startup autoSeedDemo _ => autoSeedDemo = true ∧ inProduction env settings = false ∧
      d.store.agents.rows = []
  | _ => False

theorem cleared_notMem_observed (events : List Event) : .cleared ∉ observed events := by
  simp [observed]

theorem afterReset_journal (inputs : ResetInputs) :
    .cleared ∈ (afterReset d (resetDemoDataset env settings inputs)).2 ↔
      inProduction env settings = false := by
  unfold resetDemoDataset
  cases inProduction env settings with
  | false => exact iff_of_true (List.mem_singleton_self _) rfl
  | true => exact iff_of_false List.not_mem_nil (by simp)

/-- No act resets. -/
theorem scenario_journal (step : ℤ) (inputs : ScenarioInputs) :
    .cleared ∉ (runScriptedDemoScenario env settings step inputs d).journal := by
  have hone : .cleared ∉ (actOne env settings inputs d).journal := by
    unfold actOne
    split
    · exact List.not_mem_nil
    · split <;> exact cleared_notMem_observed _
  have htwo : .cleared ∉ (actTwo env settings inputs d).journal := by
    unfold actTwo
    split
    · exact List.not_mem_nil
    · exact cleared_notMem_observed _
  have hthree : .cleared ∉ (actThree env settings inputs d).journal := by
    unfold actThree
    split
    · exact List.not_mem_nil
    · simp [cleared_notMem_observed]
  unfold runScriptedDemoScenario
  split
  · exact List.not_mem_nil
  · split
    · split
      · exact List.not_mem_nil
      · split
        · exact hone
        · split
          · exact htwo
          · exact hthree
    · exact List.not_mem_nil

theorem runBenchmark_journal {agent : Agent} {mandate : Mandate} {multiplier : ℕ}
    {scenarios : List EvaluationHarness.AdversarialScenario} :
    .cleared ∉ (runBenchmark env settings host.conversions host.texts agent mandate multiplier
      scenarios d).journal := by
  unfold runBenchmark
  split <;> exact cleared_notMem_observed _

/-- A benchmark resets where it finds nothing to run under. -/
theorem benchmark_journal (payload : RunBenchmarkRequest)
    (scenarios : List EvaluationHarness.AdversarialScenario) (reset : ResetInputs) :
    .cleared ∈ (executeAdversarialBenchmark env settings host.conversions host.texts payload
        scenarios reset d).journal ↔
      inProduction env settings = false ∧
        ∃ subject, benchmarkSubject payload.agentId d.store = .ok subject ∧
          subject.pair = none := by
  unfold executeAdversarialBenchmark
  cases hsubject : benchmarkSubject payload.agentId d.store with
  | error refusal => exact iff_of_false List.not_mem_nil (by simp)
  | ok subject =>
    dsimp only
    cases hpair : subject.pair with
    | some pair =>
      exact iff_of_false runBenchmark_journal (by simp [hpair])
    | none =>
      dsimp only
      unfold resetDemoDataset
      cases inProduction env settings with
      | true => exact iff_of_false List.not_mem_nil (by simp)
      | false => exact iff_of_true List.mem_cons_self ⟨rfl, subject, rfl, hpair⟩

/-- **The journal of a call shows a reset exactly where the call resets.** -/
theorem cleared_iff : .cleared ∈ (deploy env settings host d c).2 ↔ Clears env settings d c := by
  cases c with
  | plane act => exact iff_of_false (cleared_notMem_observed _) not_false
  | register payload inputs =>
    refine iff_of_false ?_ not_false
    rw [deploy]
    split <;> exact List.not_mem_nil
  | reconcileNow inputs => exact iff_of_false List.not_mem_nil not_false
  | reset inputs => exact afterReset_journal inputs
  | scenario step inputs => exact iff_of_false (scenario_journal step inputs) not_false
  | journey reset first second third =>
    show .cleared ∈ (runFullFiveMinuteJourney env settings reset first second third d).journal ↔ _
    unfold runFullFiveMinuteJourney resetDemoDataset
    unfold Clears
    cases inProduction env settings with
    | true => exact iff_of_false List.not_mem_nil (by simp)
    | false => exact iff_of_true List.mem_cons_self rfl
  | benchmark payload scenarios reset => exact benchmark_journal payload scenarios reset
  | startup autoSeedDemo reset =>
    show .cleared ∈ (bootstrap env settings autoSeedDemo reset d).2 ↔ _
    unfold bootstrap
    split
    · rename_i hseed
      rw [Bool.and_eq_true, Bool.and_eq_true, Bool.not_eq_true', List.isEmpty_iff] at hseed
      rw [afterReset_journal]
      exact iff_of_true hseed.1.2 ⟨hseed.1.1, hseed.1.2, hseed.2⟩
    · rename_i hnot
      refine iff_of_false List.not_mem_nil fun hclears => hnot ?_
      obtain ⟨hauto, hproduction, hagents⟩ := hclears
      rw [hauto, hproduction, hagents]
      rfl

end Runs

/-- In production no call resets. -/
theorem not_clears_of_production {env : Platform} {settings : Settings}
    (hproduction : inProduction env settings = true) (d : Dataset) (c : DeploymentCall) :
    ¬ Clears env settings d c := by
  cases c with
  | reset _ => simp [Clears, hproduction]
  | journey _ _ _ _ => simp [Clears, hproduction]
  | benchmark _ _ _ => simp [Clears, hproduction]
  | startup _ _ => simp [Clears, hproduction]
  | _ => exact not_false

/-- The journal of a run shows no reset exactly where none of its calls resets, and then it keeps
every record. -/
theorem retained_run (env : Platform) (settings : Settings) (host : Host) (d : Dataset)
    (calls : List DeploymentCall) :
    (.cleared ∉ (deployment env settings host).trace d calls ↔
      (deployment env settings host).Along (fun d c => ¬ Clears env settings d c) d calls) ∧
    (.cleared ∉ (deployment env settings host).trace d calls →
      Retained d.store ((deployment env settings host).run d calls).store) := by
  induction calls generalizing d with
  | nil => exact ⟨iff_of_true List.not_mem_nil trivial, fun _ => .refl d.store⟩
  | cons c calls ih =>
    obtain ⟨hiff, hretained⟩ := ih ((deployment env settings host).next d c)
    rw [Machine.trace_cons, List.mem_append, not_or]
    refine ⟨and_congr (not_congr cleared_iff) hiff, fun ⟨hfirst, hrest⟩ => ?_⟩
    exact (retained_deploy hfirst).trans (hretained hrest)

/-- **Nothing recorded is lost but by a reset.**  A run shows a reset exactly where one of its calls
finds what it takes to reset, in production none does, and a run that shows none keeps everything
that was recorded when it began. -/
theorem retained_unless_cleared (env : Platform) (settings : Settings) (host : Host) (d : Dataset)
    (calls : List DeploymentCall) :
    (.cleared ∉ (deployment env settings host).trace d calls ↔
      (deployment env settings host).Along (fun d c => ¬ Clears env settings d c) d calls) ∧
    (inProduction env settings = true →
      .cleared ∉ (deployment env settings host).trace d calls) ∧
    (.cleared ∉ (deployment env settings host).trace d calls →
      Retained d.store ((deployment env settings host).run d calls).store) := by
  obtain ⟨hiff, hretained⟩ := retained_run env settings host d calls
  refine ⟨hiff, fun hproduction => hiff.mpr ?_, hretained⟩
  exact Machine.along_of_forall fun c _ d => not_clears_of_production hproduction d c

end MandatePlane.RecordRetention

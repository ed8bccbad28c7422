import MandatePlane.PolicyDryRun
import Mathlib.Data.Set.Finite.List
import Mathlib.Order.WellFoundedSet

/-!
# The decision of the engine as one specification

What the nine rules say together, without the order they are asked in: an operation
is permitted when every bound holds and every ancestor is there and ACTIVE, it needs
review when it reaches the threshold and nobody has signed it off, and the decision
follows from the two.  The ancestors are all above the mandate, at any height; the
walk reaches the end of them because the parent relation has no cycle.

An engine with other rules answers the most severe of their decisions, in whatever
order they are listed.
-/

namespace MandatePlane.PolicySpecification

open DomainModel KeyedTable JsonValue HostEnvironment PolicyEngine PolicyDryRun OperationRoutes

/-! ### The ancestors -/

/-- The row `b` names is a parent of the row `a` names. -/
def ParentOf (mandates : Table Mandate) (a b : String) : Prop :=
  ∃ m, mandates.find? a = some m ∧ truthyId m.parentMandateId = some b

/-- Nothing is above itself. -/
def Acyclic (mandates : Table Mandate) : Prop :=
  ∀ id, ¬ Relation.TransGen (ParentOf mandates) id id

/-- The ids at and above a link, present or not. -/
inductive Above (mandates : Table Mandate) : Option String → String → Prop
  | parent {link : Option String} {id : String} (h : truthyId link = some id) :
      Above mandates link id
  | higher {link : Option String} {id : String} {p : Mandate} {above : String}
      (h : truthyId link = some id) (hp : mandates.find? id = some p)
      (habove : Above mandates p.parentMandateId above) : Above mandates link above

/-- Every ancestor is there and ACTIVE. -/
def AncestorsActive (mandates : Table Mandate) (mandate : Mandate) : Prop :=
  ∀ id, Above mandates mandate.parentMandateId id →
    ∃ p, mandates.find? id = some p ∧ p.status = .active

section Chain

variable {mandates : Table Mandate} {link : Option String}

theorem activeChain_above (h : ActiveChain mandates link) {id : String}
    (ha : Above mandates link id) : ∃ p, mandates.find? id = some p ∧ p.status = .active := by
  induction h with
  | root hroot =>
    cases ha with
    | parent hlink => simp [hroot] at hlink
    | higher hlink _ _ => simp [hroot] at hlink
  | @parent link id' p hlink' hp hactive _ ih =>
    cases ha with
    | parent hlink =>
      rw [hlink'] at hlink
      cases hlink
      exact ⟨p, hp, hactive⟩
    | higher hlink hp' habove =>
      rw [hlink'] at hlink
      cases hlink
      rw [hp] at hp'
      cases hp'
      exact ih habove

/-- Above a broken chain there is an id that is missing or not ACTIVE. -/
theorem brokenChain_above (h : BrokenChain mandates link) :
    ∃ id, Above mandates link id ∧ ∀ p, mandates.find? id = some p → p.status ≠ .active := by
  induction h with
  | @missing link id hlink hp =>
    refine ⟨id, .parent hlink, ?_⟩
    intro p hp'
    simp [hp] at hp'
  | @inactive link id p hlink hp hstatus =>
    refine ⟨id, .parent hlink, ?_⟩
    intro p' hp'
    rw [hp] at hp'
    cases hp'
    exact hstatus
  | parent hlink hp _ _ ih =>
    obtain ⟨id, habove, hbad⟩ := ih
    exact ⟨id, .higher hlink hp habove, hbad⟩

/-- Without a cycle the ancestors come to an end.  The induction goes up the rows of the table,
which are finitely many. -/
theorem chain_of_acyclic (hacyclic : Acyclic mandates) (link : Option String) :
    ActiveChain mandates link ∨ BrokenChain mandates link := by
  -- one step up, when the chain above every row is known
  have hstep : ∀ link, (∀ p id, truthyId link = some id → mandates.find? id = some p →
      ActiveChain mandates p.parentMandateId ∨ BrokenChain mandates p.parentMandateId) →
      ActiveChain mandates link ∨ BrokenChain mandates link := by
    intro link habove
    cases hlink : truthyId link with
    | none => exact .inl (.root hlink)
    | some id =>
      cases hp : mandates.find? id with
      | none => exact .inr (.missing hlink hp)
      | some p =>
        by_cases hactive : p.status = .active
        · rcases habove p id hlink hp with hchain | hchain
          · exact .inl (.parent hlink hp hactive hchain)
          · exact .inr (.parent hlink hp hactive hchain)
        · exact .inr (.inactive hlink hp hactive)
  let below : {m // m ∈ mandates.rows} → {m // m ∈ mandates.rows} → Prop :=
    fun p m => Relation.TransGen (ParentOf mandates) m.1.id p.1.id
  have : Finite {m // m ∈ mandates.rows} := (List.finite_toSet mandates.rows).to_subtype
  have : IsTrans _ below := ⟨fun _ _ _ hab hbc => hbc.trans hab⟩
  have : Std.Irrefl below := ⟨fun m => hacyclic m.1.id⟩
  have hwf : WellFounded below := Finite.wellFounded_of_trans_of_irrefl below
  have hrows : ∀ m : {m // m ∈ mandates.rows},
      ActiveChain mandates m.1.parentMandateId ∨ BrokenChain mandates m.1.parentMandateId := by
    intro m
    induction m using hwf.induction with
    | h m ih =>
      apply hstep
      intro p id hlink hp
      refine ih ⟨p, Table.mem_of_find? hp⟩ (.single ⟨m.1, Table.find?_of_mem m.2, ?_⟩)
      rw [hlink]
      exact congrArg some (Table.key_of_find? hp).symm
  exact hstep link fun p _ _ hp => hrows ⟨p, Table.mem_of_find? hp⟩

/-- **The chain is active exactly if every ancestor is.** -/
theorem activeChain_iff (hacyclic : Acyclic mandates) {mandate : Mandate} :
    ActiveChain mandates mandate.parentMandateId ↔ AncestorsActive mandates mandate := by
  constructor
  · intro h id ha
    exact activeChain_above h ha
  · intro h
    rcases chain_of_acyclic hacyclic mandate.parentMandateId with hchain | hchain
    · exact hchain
    · obtain ⟨id, habove, hbad⟩ := brokenChain_above hchain
      obtain ⟨p, hp, hactive⟩ := h id habove
      exact absurd hactive (hbad p hp)

end Chain

/-! ### Severity -/

/-- ALLOW gives way to review, and review to DENY. -/
def severity : PolicyDecisionType → ℕ
  | .allow => 0
  | .requireHumanReview => 1
  | .deny => 2

/-- One of the decisions, and none of them is more severe. -/
structure MostSevere (decisions : List PolicyDecisionType) (decision : PolicyDecisionType) :
    Prop where
  mem : decision ∈ decisions
  le : ∀ d ∈ decisions, severity d ≤ severity decision

theorem severity_injective : Function.Injective severity := by
  intro d d' h
  cases d <;> cases d' <;> simp [severity] at h ⊢

/-- There is only one. -/
theorem MostSevere.unique {decisions : List PolicyDecisionType} {d d' : PolicyDecisionType}
    (h : MostSevere decisions d) (h' : MostSevere decisions d') : d = d' :=
  severity_injective (Nat.le_antisymm (h'.le d h.mem) (h.le d' h'.mem))

/-- The order of the list plays no part. -/
theorem MostSevere.perm {decisions decisions' : List PolicyDecisionType} {d : PolicyDecisionType}
    (h : MostSevere decisions d) (hp : decisions.Perm decisions') : MostSevere decisions' d :=
  ⟨hp.mem_iff.mp h.mem, fun d' hd' => h.le d' (hp.mem_iff.mpr hd')⟩

/-- One round of the loop keeps the more severe of the two decisions. -/
theorem add_mostSevere (t : Tally) (diag : PolicyRuleDiagnostic) :
    MostSevere [t.decision, diag.decision] (t.add diag).decision := by
  rw [add_decision]
  cases t.decision <;> cases diag.decision <;> constructor <;> simp [severity]

/-- **The loop keeps the most severe decision** of its start and of all the rules. -/
theorem foldl_add_mostSevere (diags : List PolicyRuleDiagnostic) (t : Tally) :
    MostSevere (t.decision :: diags.map PolicyRuleDiagnostic.decision)
      (diags.foldl Tally.add t).decision := by
  induction diags generalizing t with
  | nil => exact ⟨List.mem_singleton_self _, by simp⟩
  | cons diag diags ih =>
    rw [List.foldl_cons, List.map_cons]
    have hround := add_mostSevere t diag
    have hrest := ih (t.add diag)
    constructor
    · rcases List.mem_cons.mp hrest.mem with hd | hd
      · rw [hd]
        have hm := hround.mem
        simp only [List.mem_cons, List.not_mem_nil, or_false] at hm ⊢
        tauto
      · exact List.mem_cons_of_mem _ (List.mem_cons_of_mem _ hd)
    · have hadd := hrest.le _ List.mem_cons_self
      intro d hd
      rcases List.mem_cons.mp hd with rfl | hd
      · have := hround.le _ List.mem_cons_self
        omega
      · rcases List.mem_cons.mp hd with rfl | hd
        · have := hround.le diag.decision (by simp)
          omega
        · exact hrest.le d (List.mem_cons_of_mem _ hd)

/-- The start is no more severe than any rule. -/
theorem foldl_start_mostSevere {diags : List PolicyRuleDiagnostic} (h : diags ≠ []) :
    MostSevere (diags.map PolicyRuleDiagnostic.decision)
      (diags.foldl Tally.add .start).decision := by
  obtain ⟨hmem, hle⟩ := foldl_add_mostSevere diags .start
  refine ⟨?_, fun d hd => hle d (List.mem_cons_of_mem _ hd)⟩
  rcases List.mem_cons.mp hmem with hstart | hmem
  · -- all rules permit, the first one too
    obtain ⟨diag, diags, rfl⟩ := List.exists_cons_of_ne_nil h
    have hfirst := hle diag.decision (by simp)
    rw [hstart] at hfirst ⊢
    have hallow : Tally.start.decision = diag.decision :=
      severity_injective (Nat.le_antisymm (Nat.zero_le _) hfirst)
    rw [hallow]
    exact List.mem_cons_self
  · exact hmem

/-- `PolicyEngine(rules)`: the default rules stand in for an empty list. -/
def engineRules (env : Platform) (inputs : EvaluationInputs) (rules : List PolicyRule) :
    List PolicyRule :=
  if rules = [] then defaultRules env inputs else rules

/-- `PolicyEngine(rules).evaluate(agent, mandate, operation, context)`. -/
def evaluateWith (env : Platform) (inputs : EvaluationInputs) (rules : List PolicyRule)
    (agent : Agent) (mandate : Mandate) (operation : FinancialOperation) :
    Except Refusal PolicyEvaluationResult :=
  (evaluateRules agent mandate operation (engineRules env inputs rules) .start).map
    fun t => t.result agent mandate operation

section Rules

variable {env : Platform} {inputs : EvaluationInputs} {agent : Agent} {mandate : Mandate}
  {operation : FinancialOperation} {rules : List PolicyRule}

theorem evaluateWith_nil :
    evaluateWith env inputs [] agent mandate operation =
      evaluate env inputs agent mandate operation := rfl

/-- **Any rules.**  The decision is the most severe of the answers. -/
theorem evaluateWith_mostSevere {diags : List PolicyRuleDiagnostic} (hrules : rules ≠ [])
    (h : List.Forall₂ (fun rule diag => rule agent mandate operation = .ok diag) rules diags) :
    ∃ result, evaluateWith env inputs rules agent mandate operation = .ok result ∧
      MostSevere (diags.map PolicyRuleDiagnostic.decision) result.decision := by
  have ht : evaluateRules agent mandate operation rules .start =
      .ok (diags.foldl Tally.add .start) := evaluateRules_eq_ok.mpr ⟨diags, h, rfl⟩
  refine ⟨(diags.foldl Tally.add .start).result agent mandate operation, ?_, ?_⟩
  · rw [evaluateWith, engineRules, if_neg hrules, ht]
    rfl
  · apply foldl_start_mostSevere
    rintro rfl
    cases h
    exact hrules rfl

/-- The answers of a permuted list are the permuted answers. -/
theorem evaluateWith_perm {diags : List PolicyRuleDiagnostic} {rules' : List PolicyRule}
    (hrules : rules ≠ []) (hp : rules.Perm rules')
    (h : List.Forall₂ (fun rule diag => rule agent mandate operation = .ok diag) rules diags) :
    ∃ result, evaluateWith env inputs rules' agent mandate operation = .ok result ∧
      MostSevere (diags.map PolicyRuleDiagnostic.decision) result.decision := by
  obtain ⟨diags', h', hp'⟩ := List.perm_comp_forall₂ hp.symm h
  have hrules' : rules' ≠ [] := by
    rintro rfl
    exact hrules hp.eq_nil
  obtain ⟨result, hresult, hsevere⟩ := @evaluateWith_mostSevere env inputs agent mandate operation
    rules' diags' hrules' h'
  exact ⟨result, hresult, hsevere.perm (hp'.map _)⟩

end Rules

/-! ### What the rules say together -/

/-- Every check that can deny passes. -/
structure Permitted (env : Platform) (now : ℤ) (rateLimit : RateLimitResult)
    (mandates : Table Mandate) (agent : Agent) (mandate : Mandate)
    (operation : FinancialOperation) : Prop where
  agentActive : agent.status = .active
  mandateActive : mandate.status = .active
  effective : mandate.validFrom.instant ≤ now
  unexpired : now ≤ mandate.validUntil.instant
  ancestors : AncestorsActive mandates mandate
  currency : env.upper operation.currency = env.upper mandate.currency
  operationType : mandate.allowedOperations = [] ∨
    operation.operationType.value ∈ mandate.allowedOperations
  perOperation : operation.amount ≤ mandate.maxAmountPerOp
  aggregate : mandate.currentAggregateSpend + mandate.reservedSpend + operation.amount ≤
    mandate.aggregateSpendLimit
  rateLimit : rateLimit.allowed = true

/-- The operation reaches a threshold that is set, and nobody has signed it off. -/
def NeedsReview (mandate : Mandate) (operation : FinancialOperation) : Prop :=
  truthyId operation.approvedById = none ∧
    ∃ threshold, mandate.reviewThresholdAmount = some threshold ∧ threshold ≠ 0 ∧
      threshold ≤ operation.amount

section Decision

variable {env : Platform} {now : ℤ} {rateLimit : RateLimitResult} {mandates : Table Mandate}
  {agent : Agent} {mandate : Mandate} {operation : FinancialOperation}

theorem humanReviewThresholdRule_review :
    (humanReviewThresholdRule mandate operation).decision = .requireHumanReview ↔
      NeedsReview mandate operation := by
  rw [NeedsReview, humanReviewThresholdRule]
  cases truthyId operation.approvedById with
  | some approver => simp [allowed]
  | none =>
    cases mandate.reviewThresholdAmount with
    | none => simp [allowed]
    | some threshold =>
      by_cases h : threshold ≠ 0 ∧ operation.amount ≥ threshold
      · simp only [if_pos h, true_and, Option.some.injEq, exists_eq_left', true_iff]
        exact h
      · simp only [if_neg h, true_and, Option.some.injEq, exists_eq_left', allowed, reduceCtorEq,
          false_iff]
        exact h

/-- Nothing denies exactly if all is permitted. -/
theorem permitted_iff {hierarchy : PolicyRuleDiagnostic}
    (hh : hierarchy.decision ≠ .deny ↔ AncestorsActive mandates mandate) :
    ¬ (hierarchy.decision = .deny ∨ DeniedAnyway env now rateLimit agent mandate operation) ↔
      Permitted env now rateLimit mandates agent mandate operation := by
  rw [DeniedAnyway]
  push Not
  rw [hh]
  constructor
  · rintro ⟨hancestors, hagent, ⟨hmandate, hfrom, huntil⟩, hcurrency, htype, hmax, htotal, hrate⟩
    refine ⟨hagent, hmandate, hfrom, huntil, hancestors, hcurrency, ?_, hmax, htotal, ?_⟩
    · by_cases hempty : mandate.allowedOperations = []
      · exact .inl hempty
      · exact .inr (htype hempty)
    · simpa using hrate
  · intro h
    refine ⟨h.ancestors, h.agentActive, ⟨h.mandateActive, h.effective, h.unexpired⟩, h.currency, ?_,
      h.perOperation, h.aggregate, ?_⟩
    · intro hnonempty
      exact h.operationType.resolve_left hnonempty
    · simp [h.rateLimit]

/-- Only one rule asks for review. -/
theorem eq_review_of_mem {hierarchy diag : PolicyRuleDiagnostic}
    (hreview : hierarchy.decision ≠ .requireHumanReview)
    (hm : diag ∈ verdicts env now rateLimit agent mandate operation hierarchy)
    (hd : diag.decision = .requireHumanReview) :
    diag = humanReviewThresholdRule mandate operation := by
  simp only [verdicts, List.mem_cons, List.not_mem_nil, or_false] at hm
  rcases hm with rfl | rfl | rfl | rfl | rfl | rfl | rfl | rfl | rfl
  · simp only [agentStatusRule] at hd
    split at hd <;> simp [allowed, denied] at hd
  · simp only [mandateLifecycleRule] at hd
    repeat' split at hd
    all_goals simp [allowed, denied] at hd
  · exact absurd hd hreview
  · simp only [currencyMatchRule] at hd
    split at hd <;> simp [allowed, denied] at hd
  · simp only [allowedOperationTypeRule] at hd
    split at hd <;> simp [allowed, denied] at hd
  · simp only [perTransactionLimitRule] at hd
    split at hd <;> simp [allowed, denied] at hd
  · simp only [aggregateSpendLimitRule] at hd
    split at hd <;> simp [allowed, denied] at hd
  · rfl
  · simp only [rateLimitRule] at hd
    split at hd <;> simp [allowed, denied] at hd

/-- **The decision.**  A hierarchical rule that answers by the ancestors leaves three cases. -/
theorem verdicts_decision {hierarchy : PolicyRuleDiagnostic}
    (hh : hierarchy.decision ≠ .deny ↔ AncestorsActive mandates mandate)
    (hreview : hierarchy.decision ≠ .requireHumanReview) :
    let decision := ((verdicts env now rateLimit agent mandate operation hierarchy).foldl Tally.add
      .start).decision
    (decision = .deny ↔ ¬ Permitted env now rateLimit mandates agent mandate operation) ∧
      (decision = .requireHumanReview ↔
        Permitted env now rateLimit mandates agent mandate operation ∧
          NeedsReview mandate operation) ∧
      (decision = .allow ↔
        Permitted env now rateLimit mandates agent mandate operation ∧
          ¬ NeedsReview mandate operation) := by
  intro decision
  have hdeny : decision = .deny ↔
      ¬ Permitted env now rateLimit mandates agent mandate operation := by
    rw [← permitted_iff hh, not_not]
    exact verdicts_deny
  have hsevere := @foldl_start_mostSevere
    (verdicts env now rateLimit agent mandate operation hierarchy) (by simp [verdicts])
  have hneeds : decision = .requireHumanReview → NeedsReview mandate operation := by
    intro h
    have hmem := hsevere.mem
    rw [show (List.foldl Tally.add .start _).decision = .requireHumanReview from h] at hmem
    obtain ⟨diag, hm, hd⟩ := List.mem_map.mp hmem
    rw [eq_review_of_mem hreview hm hd] at hd
    exact humanReviewThresholdRule_review.mp hd
  have hpasses : decision = .allow → ¬ NeedsReview mandate operation := by
    intro h hneeds
    have hall := (foldl_add_allow.mp h).2 (humanReviewThresholdRule mandate operation)
      (by simp [verdicts])
    rw [humanReviewThresholdRule_review.mpr hneeds] at hall
    cases hall
  cases hd : decision with
  | deny =>
    have := hdeny.mp hd
    simp [this]
  | requireHumanReview =>
    have := not_not.mp (mt hdeny.mpr (by simp [hd]))
    simp [this, hneeds hd]
  | allow =>
    have := not_not.mp (mt hdeny.mpr (by simp [hd]))
    simp [this, hpasses hd]

end Decision

/-- **The engine decides by the specification.**  The first three equivalences are about the default
rules and a table without cycles, the last part about any other non-empty list of rules, in any
order. -/
theorem policy_decision_spec (env : Platform) (inputs : EvaluationInputs) (agent : Agent)
    (mandate : Mandate) (operation : FinancialOperation) (mandates : Table Mandate)
    (hcontext : inputs.context = some mandates) (hacyclic : Acyclic mandates) :
    (∃ result, evaluate env inputs agent mandate operation = .ok result ∧
      (result.decision = .deny ↔
        ¬ Permitted env inputs.now inputs.rateLimit mandates agent mandate operation) ∧
      (result.decision = .requireHumanReview ↔
        Permitted env inputs.now inputs.rateLimit mandates agent mandate operation ∧
          NeedsReview mandate operation) ∧
      (result.decision = .allow ↔
        Permitted env inputs.now inputs.rateLimit mandates agent mandate operation ∧
          ¬ NeedsReview mandate operation)) ∧
      ∀ rules rules' diags, rules ≠ [] → rules.Perm rules' →
        List.Forall₂ (fun rule diag => rule agent mandate operation = .ok diag) rules diags →
        ∃ result, evaluateWith env inputs rules' agent mandate operation = .ok result ∧
          MostSevere (diags.map PolicyRuleDiagnostic.decision) result.decision := by
  refine ⟨?_, fun rules rules' diags hrules hp h => evaluateWith_perm hrules hp h⟩
  -- the hierarchical rule answers, and by the ancestors
  have hanswer : ∃ hierarchy, hierarchicalDelegationRule (some mandates) mandate = .ok hierarchy ∧
      hierarchy.decision ≠ .requireHumanReview ∧
      (hierarchy.decision ≠ .deny ↔ AncestorsActive mandates mandate) := by
    rw [← activeChain_iff hacyclic]
    rcases chain_of_acyclic hacyclic mandate.parentMandateId with hchain | hchain
    · obtain ⟨hierarchy, hh, hd⟩ := hierarchicalDelegationRule_allow.mpr hchain
      exact ⟨hierarchy, hh, by simp [hd], by simp [hd, hchain]⟩
    · obtain ⟨hierarchy, hh, hd⟩ := hierarchicalDelegationRule_deny.mpr hchain
      refine ⟨hierarchy, hh, by simp [hd], ?_⟩
      simp only [hd, ne_eq, not_true_eq_false, false_iff]
      intro hactive
      obtain ⟨hierarchy', hh', hd'⟩ := hierarchicalDelegationRule_allow.mpr hactive
      rw [hh] at hh'
      cases hh'
      rw [hd] at hd'
      cases hd'
  obtain ⟨hierarchy, hh, hreview, hdeny⟩ := hanswer
  rw [← hcontext] at hh
  obtain ⟨result, hresult, hd⟩ := @evaluate_of_hierarchy env inputs agent mandate operation _ hh
  refine ⟨result, hresult, ?_⟩
  rw [hd]
  exact verdicts_decision hdeny hreview

/-! ### A mandate below another -/

section Sampled

open ControlPlane Sample

/-- The clock and the rate limiter of the sample, and a session on the two mandates. -/
def sampleInputs : EvaluationInputs :=
  ⟨10, ⟨true, 60, 59, .int 0, none⟩, some (below .active).mandates⟩

/-- An order under the mandate below. -/
def sampleOperation : FinancialOperation := newOperation platform childOrder childInputs

theorem acyclic_below (status : MandateStatus) : Acyclic (below status).mandates := by
  have hparent : ∀ a b, ParentOf (below status).mandates a b → a = "mnd_2" ∧ b = "mnd_1" := by
    rintro a b ⟨m, hm, hlink⟩
    have hkey : m.id = a := Table.key_of_find? hm
    have hrow : m ∈ [{ mandate with status }, child] := Table.mem_of_find? hm
    simp only [List.mem_cons, List.not_mem_nil, or_false] at hrow
    rcases hrow with rfl | rfl
    · simp [mandate, truthyId] at hlink
    · have hb : truthyId (some "mnd_1") = some "mnd_1" := by decide +kernel
      rw [show child.parentMandateId = some "mnd_1" from rfl, hb] at hlink
      exact ⟨hkey.symm, (Option.some.inj hlink).symm⟩
  have hpath : ∀ a b, Relation.TransGen (ParentOf (below status).mandates) a b →
      a = "mnd_2" ∧ b = "mnd_1" := by
    intro a b h
    induction h with
    | single h => exact hparent _ _ h
    | tail _ h ih =>
      have hmiddle := (hparent _ _ h).1
      rw [ih.2] at hmiddle
      simp at hmiddle
  intro id h
  obtain ⟨hid, hid'⟩ := hpath id id h
  rw [hid] at hid'
  simp at hid'

/-- Below an ACTIVE mandate the order is decided by the specification. -/
theorem policy_decision_spec_below :
    ∃ result, evaluate platform sampleInputs agent child sampleOperation = .ok result ∧
      (result.decision = .deny ↔ ¬ Permitted platform sampleInputs.now sampleInputs.rateLimit
        (below .active).mandates agent child sampleOperation) := by
  obtain ⟨⟨result, hresult, hdeny, -, -⟩, -⟩ := policy_decision_spec platform sampleInputs agent
    child sampleOperation (below .active).mandates rfl (acyclic_below .active)
  exact ⟨result, hresult, hdeny⟩

/-- A delegation can set a negative threshold, and every order reaches it. -/
theorem negative_threshold_reviews :
    ¬ ∀ (env : Platform) (inputs : EvaluationInputs) (agent : Agent) (mandate : Mandate)
        (operation : FinancialOperation) (mandates : Table Mandate)
        (result : PolicyEvaluationResult),
        inputs.context = some mandates → Acyclic mandates →
        evaluate env inputs agent mandate operation = .ok result →
        result.decision = .requireHumanReview →
        ∃ threshold, mandate.reviewThresholdAmount = some threshold ∧ 0 < threshold ∧
          threshold ≤ operation.amount := by
  intro h
  have hdecision : (evaluate platform sampleInputs agent
      { child with reviewThresholdAmount := some (-1) } sampleOperation).toOption.map
        PolicyEvaluationResult.decision = some .requireHumanReview := by decide +kernel
  cases hresult : evaluate platform sampleInputs agent
      { child with reviewThresholdAmount := some (-1) } sampleOperation with
  | error refusal =>
    rw [hresult] at hdecision
    cases hdecision
  | ok result =>
    rw [hresult] at hdecision
    obtain ⟨threshold, ht, hpos, -⟩ := h platform sampleInputs agent
      { child with reviewThresholdAmount := some (-1) } sampleOperation (below .active).mandates
      result rfl (acyclic_below .active) hresult (Option.some.inj hdecision)
    have hneg : (-1 : ℤ) = threshold := Option.some.inj ht
    omega

end Sampled

end MandatePlane.PolicySpecification

import MandatePlane.Ascent
import MandatePlane.ControlPlane

/-!
# Dry runs of the policy

`/policies/test-evaluate` asks the same engine as a request does, about an operation
made up for the purpose.  It passes the session in the context, so its hierarchical
rule climbs the ancestors; a request passes no context and its rule looks at none of
them.

The two decisions therefore agree when all ancestors are ACTIVE, or when the climb ends
at one that is not and another rule denies in any case.
-/

namespace MandatePlane.PolicyDryRun

open DomainModel KeyedTable JsonValue HostEnvironment PolicyEngine Ascent OperationRoutes
open HandlerPostings

/-! ### The endpoint -/

structure PolicyTestRequest where
  agentId : String
  mandateId : String
  operationType : OperationType
  amount : ℤ
  currency : String
  payload : Dict

/-- The operation a dry run makes up.  It is never added to the session, so the columns with a
default are still unset; no rule reads them. -/
def syntheticOperation (env : Platform) (agent : Agent) (mandate : Mandate)
    (req : PolicyTestRequest) : FinancialOperation where
  id := ""
  operationId := "op_dry_run_test"
  idempotencyKey := "idemp_dry_run"
  agentId := agent.id
  mandateId := mandate.id
  operationType := req.operationType
  status := .initiated
  amount := req.amount
  currency := env.upper req.currency
  payload := req.payload
  policyEvaluationDetails := none
  errorMessage := none
  approvedById := none
  createdAt := 0

/-- `POST /policies/test-evaluate`. -/
def testEvaluatePolicy (env : Platform) (req : PolicyTestRequest) (now : ℤ)
    (rateLimit : RateLimitResult) (s : Store) : Except Refusal PolicyEvaluationResult := do
  let agent ← orRefuse (s.agents.find? req.agentId)
    (.http 404 s!"Agent '{req.agentId}' not found in registry")
  let mandate ← orRefuse (s.mandates.find? req.mandateId)
    (.http 404 s!"Mandate '{req.mandateId}' not found")
  evaluate env { now, rateLimit, context := some s.mandates } agent mandate
    (syntheticOperation env agent mandate req)

/-- The dry run of a request. -/
def dryRunOf (payload : OperationCreate) : PolicyTestRequest where
  agentId := payload.agentId
  mandateId := payload.mandateId
  operationType := payload.operationType
  amount := payload.amount
  currency := payload.currency
  payload := payload.payload

/-! ### The ancestors of a mandate -/

/-- All ancestors are there and ACTIVE, up to one without a parent. -/
inductive ActiveChain (mandates : Table Mandate) : Option String → Prop
  | root {link : Option String} (h : truthyId link = none) : ActiveChain mandates link
  | parent {link : Option String} {id : String} {p : Mandate} (h : truthyId link = some id)
      (hp : mandates.find? id = some p) (hactive : p.status = .active)
      (hchain : ActiveChain mandates p.parentMandateId) : ActiveChain mandates link

/-- Up to some ancestor all are ACTIVE; the next one is missing or is not. -/
inductive BrokenChain (mandates : Table Mandate) : Option String → Prop
  | missing {link : Option String} {id : String} (h : truthyId link = some id)
      (hp : mandates.find? id = none) : BrokenChain mandates link
  | inactive {link : Option String} {id : String} {p : Mandate} (h : truthyId link = some id)
      (hp : mandates.find? id = some p) (hstatus : p.status ≠ .active) : BrokenChain mandates link
  | parent {link : Option String} {id : String} {p : Mandate} (h : truthyId link = some id)
      (hp : mandates.find? id = some p) (hactive : p.status = .active)
      (hchain : BrokenChain mandates p.parentMandateId) : BrokenChain mandates link

/-- One round of the climb: the verdict at this ancestor, or its own parent. -/
def ancestorStep (mandates : Table Mandate) (link : Option String) :
    PolicyRuleDiagnostic ⊕ Option String :=
  match truthyId link with
  | none => .inl (allowed "HIERARCHICAL_DELEGATION_CHECK" "Delegation hierarchy validated and active" [])
  | some parentId =>
    match mandates.find? parentId with
    | none => .inl (denied "HIERARCHICAL_DELEGATION_CHECK"
        s!"Ancestor parent mandate '{parentId}' not found" [])
    | some parent =>
      if parent.status ≠ .active then
        .inl (denied "HIERARCHICAL_DELEGATION_CHECK"
          (s!"Parent mandate '{parent.id}' in delegation tree is {parent.status.value}; " ++
            "authority invalidated")
          [("parent_id", .str parent.id), ("parent_status", .str parent.status.value)])
      else .inr parent.parentMandateId

section Climb

variable {mandates : Table Mandate} {link : Option String} {diag : PolicyRuleDiagnostic}

theorem ancestorWalk_of_climb {fuel : ℕ} (h : climb (ancestorStep mandates) fuel link = some diag) :
    ancestorWalk mandates fuel link = .ok diag := by
  induction fuel generalizing link with
  | zero => cases h
  | succ fuel ih =>
    rw [climb, ancestorStep] at h
    rw [ancestorWalk]
    cases hlink : truthyId link with
    | none =>
      rw [hlink] at h
      cases h
      rfl
    | some parentId =>
      rw [hlink] at h
      cases hp : mandates.find? parentId with
      | none =>
        simp only [hp] at h ⊢
        cases h
        rfl
      | some parent =>
        simp only [hp] at h ⊢
        split at h
        · rename_i hstatus
          split at hstatus
          · rename_i hinactive
            rw [if_pos hinactive]
            cases hstatus
            cases h
            rfl
          · cases hstatus
        · rename_i hstatus
          split at hstatus
          · cases hstatus
          · rename_i hactive
            rw [if_neg hactive]
            cases hstatus
            exact ih h

theorem stops_of_ancestorWalk {fuel : ℕ} (h : ancestorWalk mandates fuel link = .ok diag) :
    ∃ n, Stops (ancestorStep mandates) n link diag := by
  induction fuel generalizing link with
  | zero =>
    rw [ancestorWalk] at h
    cases hlink : truthyId link with
    | none =>
      rw [hlink] at h
      cases h
      exact ⟨0, .here (by rw [ancestorStep, hlink])⟩
    | some parentId =>
      rw [hlink] at h
      cases h
  | succ fuel ih =>
    rw [ancestorWalk] at h
    cases hlink : truthyId link with
    | none =>
      rw [hlink] at h
      cases h
      exact ⟨0, .here (by rw [ancestorStep, hlink])⟩
    | some parentId =>
      rw [hlink] at h
      cases hp : mandates.find? parentId with
      | none =>
        simp only [hp] at h
        cases h
        exact ⟨0, .here (by simp only [ancestorStep, hlink, hp])⟩
      | some parent =>
        simp only [hp] at h
        split at h
        · rename_i hinactive
          cases h
          exact ⟨0, .here (by simp only [ancestorStep, hlink, hp]; rw [if_pos hinactive])⟩
        · rename_i hactive
          obtain ⟨n, hstops⟩ := ih h
          exact ⟨n + 1, .above (by simp only [ancestorStep, hlink, hp]; rw [if_neg hactive]) hstops⟩

/-- **The rule sees the whole chain**: as many parents as there are mandates are enough. -/
theorem ancestorWalk_eq_ok :
    ancestorWalk mandates (mandates.rows.length + 1) link = .ok diag ↔
      ∃ n, Stops (ancestorStep mandates) n link diag := by
  constructor
  · exact stops_of_ancestorWalk
  · rintro ⟨n, h⟩
    have hnodes : ∀ k k', ancestorStep mandates k = .inr k' →
        k ∈ mandates.rows.map fun m => some m.id := by
      intro k k' hstep
      unfold ancestorStep at hstep
      split at hstep
      · cases hstep
      · rename_i parentId hlink
        split at hstep
        · cases hstep
        · rename_i parent hp
          have hid : parent.id = parentId := Table.key_of_find? hp
          have hk : k = some parentId := by
            cases k with
            | none => cases hlink
            | some id =>
              rw [truthyId] at hlink
              split at hlink
              · cases hlink
              · exact hlink
          exact List.mem_map.mpr ⟨parent, Table.mem_of_find? hp, by rw [hk, hid]⟩
    have hle := h.le_length hnodes
    rw [List.length_map] at hle
    exact ancestorWalk_of_climb (climb_of_stops h (by omega))

/-- A climb that stops has found the whole chain ACTIVE, or where it is not. -/
theorem chain_of_stops {n : ℕ} (h : Stops (ancestorStep mandates) n link diag) :
    (diag.decision = .allow ∧ ActiveChain mandates link) ∨
      (diag.decision = .deny ∧ BrokenChain mandates link) := by
  induction h with
  | @here link diag hstep =>
    unfold ancestorStep at hstep
    split at hstep
    · rename_i hlink
      cases hstep
      exact .inl ⟨rfl, .root hlink⟩
    · rename_i parentId hlink
      split at hstep
      · rename_i hp
        cases hstep
        exact .inr ⟨rfl, .missing hlink hp⟩
      · rename_i parent hp
        split at hstep
        · rename_i hinactive
          cases hstep
          exact .inr ⟨rfl, .inactive hlink hp hinactive⟩
        · cases hstep
  | @above n link link' diag hstep _ ih =>
    unfold ancestorStep at hstep
    split at hstep
    · cases hstep
    · rename_i parentId hlink
      split at hstep
      · cases hstep
      · rename_i parent hp
        split at hstep
        · cases hstep
        · rename_i hactive
          cases hstep
          rw [not_not] at hactive
          rcases ih with ⟨hd, hchain⟩ | ⟨hd, hchain⟩
          · exact .inl ⟨hd, .parent hlink hp hactive hchain⟩
          · exact .inr ⟨hd, .parent hlink hp hactive hchain⟩

theorem stops_of_activeChain (h : ActiveChain mandates link) :
    ∃ n diag, Stops (ancestorStep mandates) n link diag ∧ diag.decision = .allow := by
  induction h with
  | root hlink => exact ⟨0, _, .here (by rw [ancestorStep, hlink]), rfl⟩
  | parent hlink hp hactive _ ih =>
    obtain ⟨n, diag, hstops, hd⟩ := ih
    refine ⟨n + 1, diag, .above ?_ hstops, hd⟩
    simp only [ancestorStep, hlink, hp, hactive, ne_eq, not_true, if_false]

theorem stops_of_brokenChain (h : BrokenChain mandates link) :
    ∃ n diag, Stops (ancestorStep mandates) n link diag ∧ diag.decision = .deny := by
  induction h with
  | @missing link id hlink hp =>
    have hstep : ancestorStep mandates link = .inl (denied "HIERARCHICAL_DELEGATION_CHECK"
        s!"Ancestor parent mandate '{id}' not found" []) := by
      simp only [ancestorStep, hlink, hp]
    exact ⟨0, _, .here hstep, rfl⟩
  | @inactive link id p hlink hp hstatus =>
    cases hstep : ancestorStep mandates link with
    | inl diag =>
      refine ⟨0, diag, .here hstep, ?_⟩
      simp only [ancestorStep, hlink, hp, ne_eq, hstatus, not_false_eq_true, if_true] at hstep
      rw [← Sum.inl.inj hstep]
      rfl
    | inr link' =>
      simp only [ancestorStep, hlink, hp, ne_eq, hstatus, not_false_eq_true, if_true] at hstep
      cases hstep
  | parent hlink hp hactive _ ih =>
    obtain ⟨n, diag, hstops, hd⟩ := ih
    refine ⟨n + 1, diag, .above ?_ hstops, hd⟩
    simp only [ancestorStep, hlink, hp, hactive, ne_eq, not_true, if_false]

end Climb

/-- With a session the hierarchical rule permits exactly below an ACTIVE chain. -/
theorem hierarchicalDelegationRule_allow {mandates : Table Mandate} {mandate : Mandate} :
    (∃ diag, hierarchicalDelegationRule (some mandates) mandate = .ok diag ∧
      diag.decision = .allow) ↔ ActiveChain mandates mandate.parentMandateId := by
  rw [hierarchicalDelegationRule]
  cases hlink : truthyId mandate.parentMandateId with
  | none => exact ⟨fun _ => .root hlink, fun _ => ⟨_, rfl, rfl⟩⟩
  | some id =>
    simp only [ancestorWalk_eq_ok]
    constructor
    · rintro ⟨diag, ⟨n, hstops⟩, hd⟩
      rcases chain_of_stops hstops with ⟨-, hchain⟩ | ⟨hdeny, -⟩
      · exact hchain
      · rw [hd] at hdeny
        cases hdeny
    · intro h
      obtain ⟨n, diag, hstops, hd⟩ := stops_of_activeChain h
      exact ⟨diag, ⟨n, hstops⟩, hd⟩

/-- With a session the hierarchical rule denies exactly below a broken chain. -/
theorem hierarchicalDelegationRule_deny {mandates : Table Mandate} {mandate : Mandate} :
    (∃ diag, hierarchicalDelegationRule (some mandates) mandate = .ok diag ∧
      diag.decision = .deny) ↔ BrokenChain mandates mandate.parentMandateId := by
  rw [hierarchicalDelegationRule]
  cases hlink : truthyId mandate.parentMandateId with
  | none =>
    constructor
    · rintro ⟨diag, hdiag, hd⟩
      cases hdiag
      cases hd
    · intro h
      cases h with
      | missing h => rw [hlink] at h; cases h
      | inactive h => rw [hlink] at h; cases h
      | parent h => rw [hlink] at h; cases h
  | some id =>
    simp only [ancestorWalk_eq_ok]
    constructor
    · rintro ⟨diag, ⟨n, hstops⟩, hd⟩
      rcases chain_of_stops hstops with ⟨hallow, -⟩ | ⟨-, hchain⟩
      · rw [hd] at hallow
        cases hallow
      · exact hchain
    · intro h
      obtain ⟨n, diag, hstops, hd⟩ := stops_of_brokenChain h
      exact ⟨diag, ⟨n, hstops⟩, hd⟩

/-- The rule answers with a permission or a denial, if at all. -/
theorem hierarchicalDelegationRule_decision {mandates : Table Mandate} {mandate : Mandate}
    {diag : PolicyRuleDiagnostic}
    (h : hierarchicalDelegationRule (some mandates) mandate = .ok diag) :
    diag.decision = .allow ∨ diag.decision = .deny := by
  rw [hierarchicalDelegationRule] at h
  cases hlink : truthyId mandate.parentMandateId with
  | none =>
    rw [hlink] at h
    cases h
    exact .inl rfl
  | some id =>
    rw [hlink] at h
    obtain ⟨n, hstops⟩ := ancestorWalk_eq_ok.mp h
    rcases chain_of_stops hstops with ⟨hd, -⟩ | ⟨hd, -⟩
    · exact .inl hd
    · exact .inr hd

/-! ### The two decisions -/

/-- The answers of the nine rules, the hierarchical one given. -/
def verdicts (env : Platform) (now : ℤ) (rateLimit : RateLimitResult) (agent : Agent)
    (mandate : Mandate) (operation : FinancialOperation) (hierarchy : PolicyRuleDiagnostic) :
    List PolicyRuleDiagnostic :=
  [agentStatusRule agent, mandateLifecycleRule env now mandate, hierarchy,
    currencyMatchRule env mandate operation, allowedOperationTypeRule mandate operation,
    perTransactionLimitRule mandate operation, aggregateSpendLimitRule mandate operation,
    humanReviewThresholdRule mandate operation, rateLimitRule rateLimit]

section Decisions

variable {env : Platform} {inputs : EvaluationInputs} {agent : Agent} {mandate : Mandate}
  {operation : FinancialOperation}

theorem evaluate_of_hierarchy {diag : PolicyRuleDiagnostic}
    (h : hierarchicalDelegationRule inputs.context mandate = .ok diag) :
    ∃ result, evaluate env inputs agent mandate operation = .ok result ∧ result.decision =
      ((verdicts env inputs.now inputs.rateLimit agent mandate operation diag).foldl Tally.add
        .start).decision := by
  refine ⟨((verdicts env inputs.now inputs.rateLimit agent mandate operation diag).foldl Tally.add
    .start).result agent mandate operation, ?_, rfl⟩
  unfold evaluate
  simp only [defaultRules, evaluateRules, h]
  rfl

theorem evaluate_of_no_hierarchy {refusal : Refusal}
    (h : hierarchicalDelegationRule inputs.context mandate = .error refusal) :
    evaluate env inputs agent mandate operation = .error refusal := by
  unfold evaluate
  simp only [defaultRules, evaluateRules, h]
  rfl

/-- What the fold decides depends on the decisions alone. -/
theorem foldl_add_congr {diags diags' : List PolicyRuleDiagnostic} {t t' : Tally}
    (h : List.Forall₂ (fun d d' => d.decision = d'.decision) diags diags')
    (ht : t.decision = t'.decision) :
    (diags.foldl Tally.add t).decision = (diags'.foldl Tally.add t').decision := by
  induction h generalizing t t' with
  | nil => exact ht
  | cons hd _ ih =>
    rw [List.foldl_cons, List.foldl_cons]
    apply ih
    rw [add_decision, add_decision, ht, hd]

/-- A rule other than the hierarchical one denies. -/
def DeniedAnyway (env : Platform) (now : ℤ) (rateLimit : RateLimitResult) (agent : Agent)
    (mandate : Mandate) (operation : FinancialOperation) : Prop :=
  agent.status ≠ .active ∨
    (mandate.status ≠ .active ∨ now < mandate.validFrom.instant ∨
      mandate.validUntil.instant < now) ∨
    env.upper operation.currency ≠ env.upper mandate.currency ∨
    (mandate.allowedOperations ≠ [] ∧
      operation.operationType.value ∉ mandate.allowedOperations) ∨
    mandate.maxAmountPerOp < operation.amount ∨
    mandate.aggregateSpendLimit <
      mandate.currentAggregateSpend + mandate.reservedSpend + operation.amount ∨
    rateLimit.allowed = false

theorem rateLimitRule_deny {rateLimit : RateLimitResult} :
    (rateLimitRule rateLimit).decision = .deny ↔ rateLimit.allowed = false := by
  unfold rateLimitRule
  split <;> simp_all [allowed, denied]

theorem humanReviewThresholdRule_not_deny :
    (humanReviewThresholdRule mandate operation).decision ≠ .deny := by
  unfold humanReviewThresholdRule
  split
  · simp [allowed]
  · split
    · simp [allowed]
    · split <;> simp [allowed]

/-- **When an evaluation denies**: the hierarchical rule does, or another. -/
theorem verdicts_deny {now : ℤ} {rateLimit : RateLimitResult} {hierarchy : PolicyRuleDiagnostic} :
    ((verdicts env now rateLimit agent mandate operation hierarchy).foldl Tally.add
        .start).decision = .deny ↔
      hierarchy.decision = .deny ∨ DeniedAnyway env now rateLimit agent mandate operation := by
  have hstart : Tally.start.decision ≠ .deny := by simp [Tally.start]
  have hreview := @humanReviewThresholdRule_not_deny mandate operation
  rw [foldl_add_deny]
  simp only [verdicts, List.mem_cons, List.not_mem_nil, or_false, exists_eq_or_imp,
    exists_eq_left, agentStatusRule_deny, mandateLifecycleRule_deny, currencyMatchRule_deny,
    allowedOperationTypeRule_deny, perTransactionLimitRule_deny, aggregateSpendLimitRule_deny,
    rateLimitRule_deny, DeniedAnyway]
  tauto

end Decisions

/-- The dry run of a request decides as the request does. -/
def DryRunAgrees (env : Platform) (s : Store) (payload : OperationCreate) (inputs : RequestInputs)
    (result : PolicyEvaluationResult) : Prop :=
  ∃ dry, testEvaluatePolicy env (dryRunOf payload) inputs.now inputs.rateLimit s = .ok dry ∧
    dry.decision = result.decision

/-- **Dry runs and requests.**  A request that was evaluated, and acted on `result`, is decided alike
by a dry run in the same state exactly if all ancestors of the mandate are ACTIVE, or some are up to
one that is not and another rule denies. -/
theorem dry_run_agrees_iff (env : Platform) (settings : Settings) (s : Store)
    (payload : OperationCreate) (headers : CallerAuth.CallerHeaders) (inputs : RequestInputs)
    (events : List Event) (s' : Store) (agent : Agent) (mandate : Mandate)
    (result : PolicyEvaluationResult)
    (h : Requested env settings payload headers inputs s events s' agent mandate result) :
    DryRunAgrees env s payload inputs result ↔
      ActiveChain s.mandates mandate.parentMandateId ∨
        (BrokenChain s.mandates mandate.parentMandateId ∧
          DeniedAnyway env inputs.now inputs.rateLimit agent mandate
            (newOperation env payload inputs)) := by
  -- the decision of the request: its hierarchical rule permits
  obtain ⟨permitted, hpermitted, hallow⟩ := hierarchicalDelegationRule_none mandate
  obtain ⟨live, hlive, hliveDecision⟩ := @evaluate_of_hierarchy env (requestEvaluation inputs)
    agent mandate (newOperation env payload inputs) permitted hpermitted
  rw [h.evaluated] at hlive
  cases hlive
  -- the dry run finds the same rows and asks about the same columns
  have hdry : testEvaluatePolicy env (dryRunOf payload) inputs.now inputs.rateLimit s =
      evaluate env ⟨inputs.now, inputs.rateLimit, some s.mandates⟩ agent mandate
        (syntheticOperation env agent mandate (dryRunOf payload)) := by
    unfold testEvaluatePolicy
    simp only [dryRunOf, h.agentFound, h.mandateFound, orRefuse, bind, Except.bind]
  have hsame : ∀ diag, verdicts env inputs.now inputs.rateLimit agent mandate
      (syntheticOperation env agent mandate (dryRunOf payload)) diag =
        verdicts env inputs.now inputs.rateLimit agent mandate (newOperation env payload inputs)
          diag := fun _ => rfl
  unfold DryRunAgrees
  rw [hdry, hliveDecision]
  cases hrule : hierarchicalDelegationRule (some s.mandates) mandate with
  | error refusal =>
    rw [evaluate_of_no_hierarchy hrule]
    constructor
    · rintro ⟨dry, hdry, -⟩
      cases hdry
    · rintro (hchain | ⟨hchain, -⟩)
      · obtain ⟨diag, hdiag, -⟩ := hierarchicalDelegationRule_allow.mpr hchain
        rw [hrule] at hdiag
        cases hdiag
      · obtain ⟨diag, hdiag, -⟩ := hierarchicalDelegationRule_deny.mpr hchain
        rw [hrule] at hdiag
        cases hdiag
  | ok diag =>
    obtain ⟨dry, hdry, hdryDecision⟩ := @evaluate_of_hierarchy env
      ⟨inputs.now, inputs.rateLimit, some s.mandates⟩ agent mandate
      (syntheticOperation env agent mandate (dryRunOf payload)) diag hrule
    rw [hsame] at hdryDecision
    rcases hierarchicalDelegationRule_decision hrule with hd | hd
    · have hchain : ActiveChain s.mandates mandate.parentMandateId :=
        hierarchicalDelegationRule_allow.mp ⟨diag, hrule, hd⟩
      refine ⟨fun _ => .inl hchain, fun _ => ⟨dry, hdry, hdryDecision.trans ?_⟩⟩
      have hcongr : List.Forall₂ (fun d d' => d.decision = d'.decision)
          (verdicts env inputs.now inputs.rateLimit agent mandate (newOperation env payload inputs)
            diag)
          (verdicts env inputs.now inputs.rateLimit agent mandate (newOperation env payload inputs)
            permitted) := by
        simp [verdicts, hd, hallow]
      exact foldl_add_congr hcongr rfl
    · have hchain : BrokenChain s.mandates mandate.parentMandateId :=
        hierarchicalDelegationRule_deny.mp ⟨diag, hrule, hd⟩
      have hinactive : ¬ ActiveChain s.mandates mandate.parentMandateId := by
        intro hactive
        obtain ⟨diag', hdiag', hd'⟩ := hierarchicalDelegationRule_allow.mpr hactive
        rw [hrule] at hdiag'
        cases hdiag'
        rw [hd] at hd'
        cases hd'
      have hdeny : dry.decision = .deny :=
        hdryDecision.trans (verdicts_deny.mpr (.inl hd))
      constructor
      · rintro ⟨dry', hdry', hagree⟩
        rw [hdry] at hdry'
        cases hdry'
        rw [hdeny] at hagree
        rcases verdicts_deny.mp hagree.symm with hpermit | hanyway
        · rw [hallow] at hpermit
          cases hpermit
        · exact .inr ⟨hchain, hanyway⟩
      · rintro (hactive | ⟨-, hanyway⟩)
        · exact absurd hactive hinactive
        · exact ⟨dry, hdry, hdeny.trans (verdicts_deny.mpr (.inr hanyway)).symm⟩

/-! ### A mandate below another -/

section Below

open ControlPlane Sample

/-- A request that observed something was evaluated. -/
theorem exists_requested {env : Platform} {settings : Settings} {s : Store}
    {payload : OperationCreate} {headers : CallerAuth.CallerHeaders} {inputs : RequestInputs}
    (h : 0 < (perform env settings s (.request payload headers inputs)).2.length) :
    ∃ events s' agent mandate result,
      Requested env settings payload headers inputs s events s' agent mandate result := by
  rw [perform] at h
  rcases outcome_cases s (requestFinancialOperation env settings payload headers inputs s) with
    hrefused | ⟨c, hc, hdone⟩
  · rw [hrefused] at h
    exact absurd h (by simp)
  · rcases requestFinancialOperation_spec hc with ⟨-, hnone⟩ | ⟨agent, mandate, result, hreq⟩
    · rw [hdone, hnone] at h
      exact absurd h (by simp)
    · exact ⟨_, _, agent, mandate, result, hreq⟩

def child : Mandate :=
  { mandate with id := "mnd_2", parentMandateId := some "mnd_1", delegationDepth := 1 }

/-- The agent's mandate of before with the given status, and a mandate below it. -/
def below (status : MandateStatus) : Store :=
  { store with
    mandates := ⟨[{ mandate with status }, child], (by decide : ["mnd_1", "mnd_2"].Nodup)⟩ }

def childOrder : OperationCreate := { orderA with mandateId := "mnd_2" }

def childInputs : RequestInputs := inputs "operation_A" "order_A" 600

/-- Below an ACTIVE mandate the dry run of an order decides as the order is decided. -/
theorem dry_run_agrees_below_active :
    ∃ result, DryRunAgrees platform (below .active) childOrder childInputs result := by
  obtain ⟨events, s', agent', mandate', result, h⟩ :=
    @exists_requested platform settings (below .active) childOrder ⟨none, none, none⟩ childInputs
      (by decide +kernel)
  have hm : some child = some mandate' := h.mandateFound
  refine ⟨result, (dry_run_agrees_iff _ _ _ _ _ _ _ _ _ _ _ h).mpr (.inl ?_)⟩
  rw [← Option.some.inj hm]
  exact .parent rfl rfl rfl (.root rfl)

/-- Below a suspended mandate the order is permitted and its dry run denied. -/
theorem not_agreeing_below_suspended :
    ∃ events s' agent mandate result, Requested platform settings childOrder ⟨none, none, none⟩
      childInputs (below .suspended) events s' agent mandate result ∧ result.decision = .allow ∧
      ¬ DryRunAgrees platform (below .suspended) childOrder childInputs result := by
  obtain ⟨events, s', agent', mandate', result, h⟩ :=
    @exists_requested platform settings (below .suspended) childOrder ⟨none, none, none⟩ childInputs
      (by decide +kernel)
  have hm : some child = some mandate' := h.mandateFound
  have ha : some agent = some agent' := h.agentFound
  have hallow : result.decision = .allow := by
    have hevaluated := h.evaluated
    rw [← Option.some.inj hm, ← Option.some.inj ha] at hevaluated
    have hdecision : ((evaluate platform (requestEvaluation childInputs) agent child
        (newOperation platform childOrder childInputs)).toOption.map
          PolicyEvaluationResult.decision) = some .allow := by decide +kernel
    rw [hevaluated] at hdecision
    exact Option.some.inj hdecision
  refine ⟨events, s', agent', mandate', result, h, hallow, fun ⟨dry, hdry, hagree⟩ => ?_⟩
  have hdeny : ((testEvaluatePolicy platform (dryRunOf childOrder) childInputs.now
      childInputs.rateLimit (below .suspended)).toOption.map
        PolicyEvaluationResult.decision) = some .deny := by decide +kernel
  rw [hdry] at hdeny
  have hd : dry.decision = .deny := Option.some.inj hdeny
  rw [hagree, hallow] at hd
  cases hd

end Below

end MandatePlane.PolicyDryRun

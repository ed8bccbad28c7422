import MandatePlane.DelegationForest
import MandatePlane.ReferentialIntegrity

/-!
# The delegation tree

`get_delegation_tree` lists every mandate with its agent, by depth and the newest first.  In every
state of the deployment the list can be read from the front: the parent of a mandate has been listed
when the mandate comes, its agent is there, and what it has delegated is the sum of the limits of
its children in the list.
-/

namespace MandatePlane.DelegationTree

open DomainModel KeyedTable LabelledRun LedgerView HostEnvironment HandlerPostings ControlPlane
open AgentChat BudgetTree BudgetContainment DelegationForest ForeignKeys AgentRoutes DemoRoutes
open Deployment DeploymentInvariants SideTables ReferentialIntegrity

/-! ### The listing -/

/-- An entry of the tree. -/
structure TreeNode where
  id : String
  parentId : Option String
  agentId : String
  agentName : String
  agentType : String
  status : String
  currency : String
  maxAmountPerOp : ℤ
  aggregateSpendLimit : ℤ
  currentSpend : ℤ
  reservedSpend : ℤ
  delegatedBudget : ℤ
  depth : ℤ
  validUntil : String

/-- `ORDER BY delegation_depth ASC, created_at DESC`. -/
def listedBefore (m m' : Mandate) : Bool :=
  m.delegationDepth < m'.delegationDepth ||
    (m.delegationDepth = m'.delegationDepth && m'.createdAt.instant ≤ m.createdAt.instant)

/-- The entry of a mandate. -/
def treeNode (env : Platform) (agents : Table Agent) (m : Mandate) : TreeNode :=
  let agent := agents.find? m.agentId
  { id := m.id
    parentId := m.parentMandateId
    agentId := m.agentId
    agentName := (agent.map Agent.name).getD "Unknown"
    agentType := (agent.map Agent.agentType).getD "CUSTOM"
    status := m.status.value
    currency := m.currency
    maxAmountPerOp := m.maxAmountPerOp
    aggregateSpendLimit := m.aggregateSpendLimit
    currentSpend := m.currentAggregateSpend
    reservedSpend := m.reservedSpend
    delegatedBudget := m.delegatedChildBudgetAllocated
    depth := m.delegationDepth
    validUntil := env.isoformat m.validUntil }

/-- What the statement may answer: rows that agree in both columns come in any order. -/
structure Listing (mandates : Table Mandate) (rows : List Mandate) : Prop where
  complete : rows.Perm mandates.rows
  sorted : rows.Pairwise fun m m' => listedBefore m m' = true

/-- `GET /mandates/graph/tree`, with ties as they are stored. -/
def getDelegationTree (env : Platform) (s : Store) : List TreeNode :=
  (s.mandates.rows.mergeSort listedBefore).map (treeNode env s.agents)

theorem listedBefore_iff {m m' : Mandate} : listedBefore m m' = true ↔
    m.delegationDepth < m'.delegationDepth ∨
      m.delegationDepth = m'.delegationDepth ∧ m'.createdAt.instant ≤ m.createdAt.instant := by
  rw [listedBefore, Bool.or_eq_true, Bool.and_eq_true, decide_eq_true_eq, decide_eq_true_eq,
    decide_eq_true_eq]

/-- The stored order of the ties is one the statement may answer with. -/
theorem listing_mergeSort (mandates : Table Mandate) :
    Listing mandates (mandates.rows.mergeSort listedBefore) := by
  refine ⟨List.mergeSort_perm _ _, List.pairwise_mergeSort ?_ ?_ _⟩
  · intro a b c hab hbc
    rw [listedBefore_iff] at hab hbc ⊢
    omega
  · intro a b
    rw [Bool.or_eq_true, listedBefore_iff, listedBefore_iff]
    omega

/-- What is sorted by a rank has everything of a smaller rank at the front. -/
theorem mem_front_of_rank {α : Type} {rank : α → ℤ} {rows front back : List α} {x y : α}
    (hsorted : rows.Pairwise fun a b => rank a ≤ rank b) (hrows : rows = front ++ x :: back)
    (hy : y ∈ rows) (hlt : rank y < rank x) : y ∈ front := by
  rw [hrows, List.mem_append, List.mem_cons] at hy
  rcases hy with hy | rfl | hy
  · exact hy
  · omega
  · rw [hrows] at hsorted
    have hback := (List.pairwise_append.mp hsorted).2.1
    have hle := List.rel_of_pairwise_cons hback hy
    omega

/-! ### A tree that can be read from the front -/

/-- **What a reader of the tree relies on.** -/
structure ReadsAsTree (s : Store) (nodes : List TreeNode) : Prop where
  ids : (nodes.map TreeNode.id).Perm (s.mandates.rows.map Mandate.id)
  nodup : (nodes.map TreeNode.id).Nodup
  parentsFirst : ∀ front node back, nodes = front ++ node :: back →
    ∀ id, node.parentId = some id → ∃ parent ∈ front, parent.id = id ∧ parent.depth < node.depth
  delegated : ∀ node ∈ nodes, node.delegatedBudget =
    (nodes.map fun child =>
      if child.parentId = some node.id then child.aggregateSpendLimit else 0).sum
  agents : ∀ node ∈ nodes, ∃ agent, s.agents.find? node.agentId = some agent ∧
    node.agentName = agent.name ∧ node.agentType = agent.agentType

section Reading

variable {env : Platform} {s : Store} {rows : List Mandate}

/-- The children's limits in the listing. -/
theorem childLimits_listing (h : rows.Perm s.mandates.rows) (id : String) :
    ((rows.map (treeNode env s.agents)).map fun child =>
      if child.parentId = some id then child.aggregateSpendLimit else 0).sum =
        childLimits (nodes s.mandates) id := by
  rw [childLimits, nodes, List.map_map, List.map_map]
  exact (h.map _).sum_eq

theorem readsAsTree_of_listing (hrows : Listing s.mandates rows) (hfall : DepthsFall s.mandates)
    (hap : Apportioned s.mandates) (href : References s) :
    ReadsAsTree s (rows.map (treeNode env s.agents)) := by
  have hids : ((rows.map (treeNode env s.agents)).map TreeNode.id) = rows.map Mandate.id := by
    rw [List.map_map]
    rfl
  have hperm : (rows.map Mandate.id).Perm (s.mandates.rows.map Mandate.id) :=
    hrows.complete.map Mandate.id
  refine ⟨by rwa [hids], ?_, ?_, ?_, ?_⟩
  · rw [hids]
    exact hperm.nodup_iff.mpr s.mandates.nodup
  · intro front node back hsplit id hid
    obtain ⟨front', rest, rfl, rfl, hrest⟩ := List.map_eq_append_iff.mp hsplit
    obtain ⟨m, back', rfl, rfl, rfl⟩ := List.map_eq_cons_iff.mp hrest
    have hm : m ∈ s.mandates.rows := hrows.complete.mem_iff.mp (by simp)
    obtain ⟨parent, hparent, hlt⟩ := hfall.linked m hm id hid
    have hsorted : (front' ++ m :: back').Pairwise fun a b =>
        a.delegationDepth ≤ b.delegationDepth :=
      hrows.sorted.imp fun hbefore => by
        rw [listedBefore_iff] at hbefore
        omega
    have hlisted := hrows.complete.mem_iff.mpr (Table.mem_of_find? hparent)
    exact ⟨treeNode env s.agents parent,
      List.mem_map_of_mem (mem_front_of_rank hsorted rfl hlisted hlt),
      Table.key_of_find? hparent, hlt⟩
  · intro node hnode
    obtain ⟨m, hm, rfl⟩ := List.mem_map.mp hnode
    exact (hap.allotted m (hrows.complete.mem_iff.mp hm)).trans
      (childLimits_listing hrows.complete m.id).symm
  · intro node hnode
    obtain ⟨m, hm, rfl⟩ := List.mem_map.mp hnode
    obtain ⟨agent, hagent⟩ := href.holders m (hrows.complete.mem_iff.mp hm) _ rfl
    refine ⟨agent, hagent, ?_, ?_⟩
    · rw [treeNode, hagent]
      rfl
    · rw [treeNode, hagent]
      rfl

end Reading

/-! ### Every run -/

/-- What the tree rests on. -/
structure Branching (s : Store) : Prop where
  references : References s
  fall : DepthsFall s.mandates
  apportioned : Apportioned s.mandates

section Runs

variable {env : Platform} {settings : Settings} {P : Store → Call → Prop} {s s' : Store}
  {j : List JournalEntry}

theorem depthsFall_seeded (inputs : ResetInputs) : DepthsFall (seededStore inputs).mandates := by
  refine ⟨fun m h => ?_, fun m h => ?_, fun m h id hid => ?_⟩
  · rcases mem_seededMandates h with rfl | rfl | rfl <;> rfl
  · have hdepth : m.delegationDepth = 0 ∨ m.delegationDepth = 1 := by
      rcases mem_seededMandates h with rfl | rfl | rfl
      · exact .inl rfl
      · exact .inr rfl
      · exact .inl rfl
    omega
  · have hparent : (seededStore inputs).mandates.find? (parentMandate inputs.parent).id =
        some (parentMandate inputs.parent) := Table.find?_of_mem List.mem_cons_self
    rcases mem_seededMandates h with rfl | rfl | rfl <;> cases hid
    exact ⟨parentMandate inputs.parent, hparent, Int.zero_lt_one⟩

/-- The seeded parent has handed out the seeded child's limit. -/
theorem apportioned_seeded (inputs : ResetInputs) : Apportioned (seededStore inputs).mandates := by
  have hnodes : nodes (seededStore inputs).mandates =
      [⟨parentMandateId, none, 10000000⟩, ⟨childMandateId, some parentMandateId, 1500000⟩,
        ⟨supportMandateId, none, 2500000⟩] := rfl
  refine ⟨?_, fun m h => ?_⟩
  · have hroot : Grown [(⟨parentMandateId, none, 10000000⟩ : Node String ℤ)] :=
      .grow .nil (fun _ h => absurd h List.not_mem_nil) fun _ h => by cases h
    have hchild : Grown [(⟨parentMandateId, none, 10000000⟩ : Node String ℤ),
        ⟨childMandateId, some parentMandateId, 1500000⟩] :=
      .grow hroot (by simp [parentMandateId, childMandateId]) (by simp)
    rw [hnodes]
    exact .grow hchild (by simp [parentMandateId, childMandateId, supportMandateId]) (by simp)
  · rw [hnodes]
    rcases mem_seededMandates h with rfl | rfl | rfl <;>
      simp [childLimits, parentMandate, childMandate, supportMandate, seededMandate,
        parentMandateId, childMandateId, supportMandateId]

theorem branching_step (h : Branching s) (hstep : TableStep env settings P s j s') :
    Branching s' := by
  refine ⟨references_step h.references hstep, ?_, ?_⟩
  · cases hstep with
    | called c _ => exact depthsFall_answer c h.fall
    | captured hcaptured =>
      have hgrants := (processDomainWebhookEvent_spec hcaptured).explained.1.grants
      rw [← depthsFall_terms, terms_of_allotments (allotments_of_grants hgrants)]
      exact depthsFall_terms.mpr h.fall
    | enrolled principals agents _ => exact h.fall
    | cleared inputs _ => exact depthsFall_seeded inputs
  · cases hstep with
    | called c _ =>
      have hcall := answer_step env settings s c
      generalize answer env settings s c = done at hcall ⊢
      obtain ⟨s', events⟩ := done
      cases hcall with
      | control hcontrol => exact apportioned_step hcontrol h.apportioned
      | silent => exact h.apportioned
      | reissued hinsert => exact h.apportioned.root hinsert rfl rfl
    | captured hcaptured =>
      have hgrants := (processDomainWebhookEvent_spec hcaptured).explained.1.grants
      rw [← apportioned_allotments, allotments_of_grants hgrants]
      exact apportioned_allotments.mpr h.apportioned
    | enrolled principals agents _ => exact h.apportioned
    | cleared inputs _ => exact apportioned_seeded inputs

theorem branching_converge (h : Branching s) (op : FinancialOperation) :
    Branching (converge op s) := by
  have hallotments : allotments (converge op s) = allotments s :=
    allotments_columns _ fun _ => rfl
  refine ⟨h.references.written (written_converge op s), ?_, ?_⟩
  · rw [← depthsFall_terms, terms_of_allotments hallotments]
    exact depthsFall_terms.mpr h.fall
  · rw [← apportioned_allotments, hallotments]
    exact apportioned_allotments.mpr h.apportioned

theorem branching_empty (href : References s) (hempty : s.mandates.rows = []) : Branching s := by
  refine ⟨href, ⟨fun m hm => ?_, fun m hm => ?_, fun m hm => ?_⟩, ?_, fun m hm => ?_⟩
  case refine_4 =>
    rw [nodes, hempty]
    exact .nil
  all_goals
    rw [hempty] at hm
    cases hm

end Runs

/-- **The tree can be read from the front**, in every state of every run that begins without
mandates: every mandate is listed once, after its parent, with the agent it was issued to and with
the sum of its children's limits as its delegated budget. -/
theorem tree_reads_forward (env : Platform) (settings : Settings) (host : Host) (d : Dataset)
    (href : References d.store) (hempty : d.store.mandates.rows = [])
    (calls : List DeploymentCall) (rows : List Mandate)
    (hrows : Listing ((deployment env settings host).run d calls).store.mandates rows) :
    ReadsAsTree ((deployment env settings host).run d calls).store
      (rows.map (treeNode env ((deployment env settings host).run d calls).store.agents)) := by
  have hbranching : Branching ((deployment env settings host).run d calls).store :=
    deployment_keeps (fun _ _ _ h hstep => branching_step h hstep)
      (fun _ op h _ => branching_converge h op) (branching_empty href hempty) calls
  exact readsAsTree_of_listing hrows hbranching.fall hbranching.apportioned hbranching.references

open ControlPlane.Sample Deployment.Sample in
/-- The tree of the seeded database. -/
theorem tree_reads_forward_seeded :
    ReadsAsTree ((deployment platform settings host).run
        ⟨⟨⟨.empty, .empty, .empty, .empty, [], .empty, []⟩, []⟩, [], .empty, []⟩
        [.startup true ⟨⟨0, 0, 0⟩, ⟨0, 0, 0⟩, ⟨0, 0, 0⟩⟩]).store
      (getDelegationTree platform ((deployment platform settings host).run
        ⟨⟨⟨.empty, .empty, .empty, .empty, [], .empty, []⟩, []⟩, [], .empty, []⟩
        [.startup true ⟨⟨0, 0, 0⟩, ⟨0, 0, 0⟩, ⟨0, 0, 0⟩⟩]).store) :=
  tree_reads_forward platform settings host _ (references_empty rfl rfl rfl rfl) rfl _ _
    (listing_mergeSort _)

end MandatePlane.DelegationTree

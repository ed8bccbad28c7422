import MandatePlane.DelegationBounds
import MandatePlane.EntryPoints
import MandatePlane.PolicyDryRun

/-!
# The forest of delegations

The hierarchical rule follows `parent_mandate_id` for as long as there is one.  It keeps
no set of the mandates it has seen and no bound of its own, so that it returns because
the mandates form a forest: every link goes to a mandate of smaller depth, and no depth
exceeds the maximum that its tree was issued with.

A chat reissues a mandate with the depth of an earlier one and without its parent.  Such a
root is deep, but its depth bounds the chain above it all the more.
-/

namespace MandatePlane.DelegationForest

open DomainModel KeyedTable LabelledRun HostEnvironment ControlPlane MandateRoutes MandateSteps
open LedgerView PolicyEngine AgentChat Ascent PolicyDryRun BudgetContainment

/-! ### Following the parents -/

/-- How a climb ends: at a mandate without a parent, or at a parent that is not there. -/
inductive Top where
  | root (m : Mandate)
  | missing (id : String)

/-- One step along `parent_mandate_id`. -/
def parentStep (mandates : Table Mandate) (m : Mandate) : Top ⊕ Mandate :=
  match m.parentMandateId with
  | none => .inl (.root m)
  | some id =>
    match mandates.find? id with
    | none => .inl (.missing id)
    | some p => .inr p

/-- **Rooted**: the parents above a mandate are all different, a root is reached within its depth,
which is at most the maximum, and the loop of the hierarchical rule returns. -/
structure Rooted (mandates : Table Mandate) (m : Mandate) : Prop where
  root : ∃ (n : ℕ) (r : Mandate), n ≤ m.delegationDepth ∧
    Stops (parentStep mandates) n m (.root r)
  bounded : m.delegationDepth ≤ m.maxDelegationDepth
  distinct : ∀ i j a b, ascend (parentStep mandates) i m = some a →
    ascend (parentStep mandates) j m = some b → a.id = b.id → i = j
  walk : ∃ diag, ∀ fuel : ℕ, m.delegationDepth < fuel →
    ancestorWalk mandates fuel m.parentMandateId = .ok diag
  rule : ∃ diag, hierarchicalDelegationRule (some mandates) m = .ok diag

/-- **The invariant**: depths lie between zero and the maximum, which is the same for all mandates,
and the parent of a mandate is there, with a smaller depth. -/
structure DepthsFall (mandates : Table Mandate) : Prop where
  maximum : ∀ m ∈ mandates.rows, m.maxDelegationDepth = 2
  bounded : ∀ m ∈ mandates.rows, 0 ≤ m.delegationDepth ∧ m.delegationDepth ≤ 2
  linked : ∀ m ∈ mandates.rows, ∀ id, m.parentMandateId = some id →
    ∃ p, mandates.find? id = some p ∧ p.delegationDepth < m.delegationDepth

namespace DepthsFall

variable {mandates mandates' : Table Mandate} {m : Mandate}

/-- A step goes to a row of smaller depth. -/
theorem parentStep_inr (h : DepthsFall mandates) (hm : m ∈ mandates.rows) {p : Mandate}
    (hstep : parentStep mandates m = .inr p) :
    p ∈ mandates.rows ∧ p.delegationDepth.toNat < m.delegationDepth.toNat := by
  unfold parentStep at hstep
  split at hstep
  · cases hstep
  · rename_i id hlink
    obtain ⟨q, hq, hlt⟩ := h.linked m hm id hlink
    rw [hq] at hstep
    cases hstep
    have hrow := Table.mem_of_find? hq
    have hnonneg := (h.bounded p hrow).1
    exact ⟨hrow, by omega⟩

/-- No parent is missing. -/
theorem root_of_stops (h : DepthsFall mandates) (hm : m ∈ mandates.rows) {n : ℕ} {top : Top}
    (hstops : Stops (parentStep mandates) n m top) : ∃ r, top = .root r := by
  induction hstops with
  | @here m top hstep =>
    unfold parentStep at hstep
    split at hstep
    · exact ⟨m, (Sum.inl.inj hstep).symm⟩
    · rename_i id hlink
      obtain ⟨p, hp, -⟩ := h.linked m hm id hlink
      rw [hp] at hstep
      cases hstep
  | above hstep _ ih => exact ih (h.parentStep_inr hm hstep).1

theorem ascend_mem (h : DepthsFall mandates) (hm : m ∈ mandates.rows) {i : ℕ} {a : Mandate}
    (ha : ascend (parentStep mandates) i m = some a) : a ∈ mandates.rows := by
  induction i generalizing m with
  | zero =>
    cases ha
    exact hm
  | succ i ih =>
    rw [ascend] at ha
    cases hstep : parentStep mandates m with
    | inl top =>
      rw [hstep] at ha
      cases ha
    | inr p =>
      rw [hstep] at ha
      exact ih (h.parentStep_inr hm hstep).1 ha

/-- The depth that a link stands for in the loop of the hierarchical rule. -/
def linkRank (mandates : Table Mandate) (link : Option String) : ℕ :=
  match link.bind mandates.find? with
  | none => 0
  | some p => p.delegationDepth.toNat + 1

/-- A link that is followed was set. -/
theorem eq_some_of_truthyId {link : Option String} {id : String} (h : truthyId link = some id) :
    link = some id := by
  cases link with
  | none => cases h
  | some text =>
    rw [truthyId] at h
    split at h
    · cases h
    · exact h

theorem linkRank_parent (h : DepthsFall mandates) (hm : m ∈ mandates.rows) :
    linkRank mandates m.parentMandateId ≤ m.delegationDepth.toNat := by
  unfold linkRank
  cases hlink : m.parentMandateId with
  | none => exact Nat.zero_le _
  | some id =>
    obtain ⟨p, hp, hlt⟩ := h.linked m hm id hlink
    have hnonneg := (h.bounded p (Table.mem_of_find? hp)).1
    rw [Option.bind_some, hp]
    show p.delegationDepth.toNat + 1 ≤ m.delegationDepth.toNat
    omega

/-- A round of the loop lowers the rank. -/
theorem ancestorStep_inr (h : DepthsFall mandates) {link link' : Option String}
    (hstep : ancestorStep mandates link = .inr link') :
    linkRank mandates link' < linkRank mandates link := by
  unfold ancestorStep at hstep
  split at hstep
  · cases hstep
  · rename_i id hid
    split at hstep
    · cases hstep
    · rename_i p hp
      split at hstep
      · cases hstep
      · cases hstep
        have hle := h.linkRank_parent (Table.mem_of_find? hp)
        have hrank : linkRank mandates link = p.delegationDepth.toNat + 1 := by
          rw [linkRank, eq_some_of_truthyId hid, Option.bind_some, hp]
        omega

/-- **Where depths fall, every mandate is rooted.** -/
theorem rooted (h : DepthsFall mandates) (hm : m ∈ mandates.rows) : Rooted mandates m := by
  have hnonneg := (h.bounded m hm).1
  obtain ⟨n, top, hn, hstops⟩ := @stops_of_rank _ _ (parentStep mandates)
    (fun m => m ∈ mandates.rows) (fun m => m.delegationDepth.toNat)
    (fun k k' hk hstep => h.parentStep_inr hk hstep) m hm
  obtain ⟨r, rfl⟩ := h.root_of_stops hm hstops
  obtain ⟨n', diag, hn', hwalk⟩ := @stops_of_rank _ _ (ancestorStep mandates) (fun _ => True)
    (linkRank mandates) (fun k k' _ hstep => ⟨trivial, h.ancestorStep_inr hstep⟩) m.parentMandateId
    trivial
  have hle := h.linkRank_parent hm
  refine ⟨⟨n, r, by omega, hstops⟩, ?_, ?_, ⟨diag, fun fuel hfuel => ?_⟩, ?_⟩
  · rw [h.maximum m hm]
    exact (h.bounded m hm).2
  · intro i j a b ha hb hid
    have hsame : a = b := Table.eq_of_key_eq (h.ascend_mem hm ha) (h.ascend_mem hm hb) hid
    exact hstops.ascend_inj ha (hsame ▸ hb)
  · exact ancestorWalk_of_climb (climb_of_stops hwalk (by omega))
  · unfold hierarchicalDelegationRule
    split
    · exact ⟨_, rfl⟩
    · exact ⟨diag, ancestorWalk_eq_ok.mpr ⟨n', hwalk⟩⟩

/-- A new root. -/
theorem insert_root (h : DepthsFall mandates) (hi : mandates.insert m = some mandates')
    (hmaximum : m.maxDelegationDepth = 2)
    (hbounded : 0 ≤ m.delegationDepth ∧ m.delegationDepth ≤ 2)
    (hlink : ∀ id, m.parentMandateId = some id →
      ∃ p, mandates.find? id = some p ∧ p.delegationDepth < m.delegationDepth) :
    DepthsFall mandates' := by
  refine ⟨fun r hr => ?_, fun r hr => ?_, fun r hr id hid => ?_⟩
  · rcases (Table.mem_insert hi).mp hr with hr | rfl
    · exact h.maximum r hr
    · exact hmaximum
  · rcases (Table.mem_insert hi).mp hr with hr | rfl
    · exact h.bounded r hr
    · exact hbounded
  · have hfound : ∃ p, mandates.find? id = some p ∧ p.delegationDepth < r.delegationDepth := by
      rcases (Table.mem_insert hi).mp hr with hr | rfl
      · exact h.linked r hr id hid
      · exact hlink id hid
    obtain ⟨p, hp, hlt⟩ := hfound
    exact ⟨p, Table.find?_insert_of_some hi hp, hlt⟩

end DepthsFall

/-! ### What the steps keep -/

/-- Only the terms of the mandates play a part. -/
theorem depthsFall_terms {s : Store} : DepthsFall (terms s) ↔ DepthsFall s.mandates := by
  constructor
  · intro h
    refine ⟨fun m hm => h.maximum (termsOf m) (List.mem_map_of_mem hm),
      fun m hm => h.bounded (termsOf m) (List.mem_map_of_mem hm), fun m hm id hlink => ?_⟩
    obtain ⟨p, hp, hlt⟩ := h.linked (termsOf m) (List.mem_map_of_mem hm) id hlink
    rw [terms_find?] at hp
    obtain ⟨q, hq, rfl⟩ := Option.map_eq_some_iff.mp hp
    exact ⟨q, hq, hlt⟩
  · intro h
    refine ⟨fun r hr => ?_, fun r hr => ?_, fun r hr id hlink => ?_⟩
    · obtain ⟨m, hm, rfl⟩ := List.mem_map.mp hr
      exact h.maximum m hm
    · obtain ⟨m, hm, rfl⟩ := List.mem_map.mp hr
      exact h.bounded m hm
    · obtain ⟨m, hm, rfl⟩ := List.mem_map.mp hr
      obtain ⟨p, hp, hlt⟩ := h.linked m hm id hlink
      refine ⟨termsOf p, ?_, hlt⟩
      rw [terms_find?, hp]
      rfl

section Steps

variable {env : Platform} {settings : Settings} {s s' : Store}

/-- **A step of the control plane** issues at depth zero, delegates one deeper, or leaves the terms. -/
theorem depthsFall_step {a : Action} {events : List Event} (h : Step env settings s a events s')
    (hfall : DepthsFall s.mandates) : DepthsFall s'.mandates := by
  rcases h.allotments_cases with he | ⟨payload, id, now, agent, -, hi⟩ |
    ⟨parentId, payload, id, now, parent, currency, -, hd⟩
  · rw [← depthsFall_terms, terms_of_allotments he]
    exact depthsFall_terms.mpr hfall
  · exact hfall.insert_root hi rfl ⟨le_refl 0, Int.zero_le_ofNat 2⟩ fun parentId hlink => by cases hlink
  · have hrow := Table.mem_of_find? hd.found
    have hdepth := (validateDelegationInvariants_eq_ok hd.valid).2.1
    have hmaximum := hfall.maximum parent hrow
    have hnonneg := (hfall.bounded parent hrow).1
    obtain ⟨hi, hparent⟩ := DelegationBounds.Delegated.terms_insert hd
    refine depthsFall_terms.mp ((depthsFall_terms.mpr hfall).insert_root hi hmaximum ?_ ?_)
    · show 0 ≤ parent.delegationDepth + 1 ∧ parent.delegationDepth + 1 ≤ 2
      omega
    · intro parentId hlink
      cases hlink
      exact ⟨termsOf parent, hparent, Int.lt_succ parent.delegationDepth⟩

/-- **A chat** reissues with the depth of one of the agent's mandates, or of none. -/
theorem depthsFall_chat {agentId hex : String} {headers : CallerAuth.CallerHeaders} {now : DateTime}
    {c : Committed Mandate} (h : chatWithAgent env settings agentId headers hex now s = .ok c)
    (hfall : DepthsFall s.mandates) : DepthsFall c.store.mandates := by
  obtain ⟨found, -, h⟩ := bind_eq_ok.mp h
  obtain ⟨agent, -, h⟩ := bind_eq_ok.mp h
  dsimp only at h
  split at h
  · cases h
    exact hfall
  · obtain ⟨mandates, hinsert, h⟩ := bind_eq_ok.mp h
    rw [orRefuse_eq_ok] at hinsert
    cases h
    refine hfall.insert_root hinsert rfl ?_ fun id hlink => by cases hlink
    show 0 ≤ ((newest _).map Mandate.delegationDepth).getD 0 ∧
      ((newest _).map Mandate.delegationDepth).getD 0 ≤ 2
    cases hprevious : newest (s.mandates.rows.filter fun m => m.agentId = agent.id) with
    | none => exact ⟨le_refl 0, Int.zero_le_ofNat 2⟩
    | some previous =>
      exact hfall.bounded previous (List.mem_of_mem_filter (EntryPoints.mem_of_newest hprevious))

theorem depthsFall_answer (c : Call) (hfall : DepthsFall s.mandates) :
    DepthsFall (answer env settings s c).1.mandates := by
  cases c with
  | control a => exact depthsFall_step (perform_step env settings s a) hfall
  | chat agentId headers hex now =>
    rcases outcome_cases s (chatWithAgent env settings agentId headers hex now s) with
      h | ⟨c, hc, h⟩
    · rw [answer, h]
      exact hfall
    · rw [answer, h]
      exact depthsFall_chat hc hfall

/-- **The delegations form a forest**: in every state of every run that starts without mandates the
parents of a mandate are all different, a root is reached within its depth, and the loop over its
ancestors returns. -/
theorem delegation_forest (env : Platform) (settings : Settings) (s : Store) (calls : List Call)
    (hempty : s.mandates.rows = []) :
    (interactivePlane env settings).Throughout
      (fun s => ∀ m ∈ s.mandates.rows, Rooted s.mandates m) s calls := by
  have hstart : DepthsFall s.mandates := by
    refine ⟨fun m hm => ?_, fun m hm => ?_, fun m hm => ?_⟩ <;>
    · rw [hempty] at hm
      cases hm
  have hstep : ∀ (s : Store) (c : Call), DepthsFall s.mandates →
      DepthsFall ((interactivePlane env settings).next s c).mandates :=
    fun s c hfall => depthsFall_answer c hfall
  refine Machine.throughout_mono (fun s hfall => ?_) (Machine.throughout_of_step hstep hstart calls)
  exact fun m hm => hfall.rooted hm

end Steps

/-- A child is delegated, its parent is suspended, and a chat reissues. -/
theorem delegation_forest_reissued :
    (interactivePlane ControlPlane.Sample.platform ControlPlane.Sample.settings).Throughout
      (fun s => ∀ m ∈ s.mandates.rows, Rooted s.mandates m) unissued
      [.control issue, .control (handOut 400 (by decide)), .control (.suspend "mnd_1" none),
        .chat "agt_1" ⟨none, none, none⟩ "hex" ⟨5, some 0⟩] :=
  delegation_forest _ _ _ _ rfl

end MandatePlane.DelegationForest

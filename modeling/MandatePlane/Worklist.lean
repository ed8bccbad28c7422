import Mathlib.Data.List.Nodup
import Mathlib.Data.List.Perm.Subperm
import Mathlib.Logic.Relation

/-!
# Draining a worklist

The breadth-first loop: take a node from the front of the queue, visit it, queue
those of its successors that have not been visited.  What it has visited when the
queue runs dry is closed under successors.  On a forest inside a finite universe no
node is queued twice, so as many rounds as there are nodes are enough.
-/

namespace MandatePlane.Worklist

variable {κ : Type*} [DecidableEq κ]

/-- The loop, for at most `fuel` rounds; the visited nodes, last first. -/
def drain (succ : κ → List κ) : (fuel : ℕ) → (queue visited : List κ) → Option (List κ)
  | _, [], visited => some visited
  | 0, _ :: _, _ => none
  | fuel + 1, k :: queue, visited =>
    drain succ fuel (queue ++ (succ k).filter (· ∉ k :: visited)) (k :: visited)

variable {succ : κ → List κ} {fuel : ℕ} {queue visited out : List κ}

/-- **Closure.**  Everything visited or queued ends up visited, and so do all successors. -/
theorem drain_closed (h : drain succ fuel queue visited = some out)
    (hc : ∀ k ∈ visited, ∀ c ∈ succ k, c ∈ visited ∨ c ∈ queue) :
    (∀ k ∈ visited, k ∈ out) ∧ (∀ k ∈ queue, k ∈ out) ∧ ∀ k ∈ out, ∀ c ∈ succ k, c ∈ out := by
  induction fuel generalizing queue visited with
  | zero =>
    cases queue with
    | nil =>
      cases h
      exact ⟨fun _ hk => hk, fun _ hk => absurd hk List.not_mem_nil,
        fun k hk c hcs => (hc k hk c hcs).resolve_right List.not_mem_nil⟩
    | cons k queue => cases h
  | succ fuel ih =>
    cases queue with
    | nil =>
      cases h
      exact ⟨fun _ hk => hk, fun _ hk => absurd hk List.not_mem_nil,
        fun k hk c hcs => (hc k hk c hcs).resolve_right List.not_mem_nil⟩
    | cons k queue =>
      have hnext : ∀ k' ∈ k :: visited, ∀ c ∈ succ k', c ∈ k :: visited ∨
          c ∈ queue ++ (succ k).filter (· ∉ k :: visited) := by
        intro k' hk' c hcs
        by_cases hm : c ∈ k :: visited
        · exact .inl hm
        · refine .inr (List.mem_append.mpr ?_)
          rcases List.mem_cons.mp hk' with rfl | hk'
          · exact .inr (List.mem_filter.mpr ⟨hcs, by simpa using hm⟩)
          · rcases hc k' hk' c hcs with hv | hq
            · exact absurd (List.mem_cons_of_mem _ hv) hm
            · exact .inl ((List.mem_cons.mp hq).resolve_left fun he =>
                hm (he ▸ List.mem_cons_self))
      obtain ⟨hvisited, hqueue, hclosed⟩ := ih h hnext
      refine ⟨fun k' hk' => hvisited k' (List.mem_cons_of_mem _ hk'), fun k' hk' => ?_, hclosed⟩
      rcases List.mem_cons.mp hk' with rfl | hk'
      · exact hvisited _ List.mem_cons_self
      · exact hqueue k' (List.mem_append_left _ hk')

/-- **Reachability.**  Only what can be reached from the queue is visited. -/
theorem drain_reached (h : drain succ fuel queue visited = some out) :
    ∀ k ∈ out, k ∈ visited ∨ ∃ r ∈ queue, Relation.ReflTransGen (fun a b => b ∈ succ a) r k := by
  induction fuel generalizing queue visited with
  | zero =>
    cases queue with
    | nil =>
      cases h
      exact fun _ hk => .inl hk
    | cons k queue => cases h
  | succ fuel ih =>
    cases queue with
    | nil =>
      cases h
      exact fun _ hk => .inl hk
    | cons k queue =>
      intro k' hk'
      rcases ih h k' hk' with hv | ⟨r, hr, hpath⟩
      · rcases List.mem_cons.mp hv with rfl | hv
        · exact .inr ⟨k', List.mem_cons_self, .refl⟩
        · exact .inl hv
      · rcases List.mem_append.mp hr with hr | hr
        · exact .inr ⟨r, List.mem_cons_of_mem _ hr, hpath⟩
        · exact .inr ⟨k, List.mem_cons_self, .head (List.mem_filter.mp hr).1 hpath⟩

/-- **The loop from one node visits what can be reached from it.** -/
theorem mem_drain_root {root k : κ} (h : drain succ fuel [root] [] = some out) :
    k ∈ out ↔ Relation.ReflTransGen (fun a b => b ∈ succ a) root k := by
  obtain ⟨-, hqueue, hclosed⟩ := drain_closed h fun _ hk => absurd hk List.not_mem_nil
  constructor
  · intro hk
    rcases drain_reached h k hk with hv | ⟨r, hr, hpath⟩
    · exact absurd hv List.not_mem_nil
    · rwa [List.mem_singleton.mp hr] at hpath
  · intro hpath
    induction hpath with
    | refl => exact hqueue root (List.mem_singleton_self root)
    | tail _ hstep ih => exact hclosed _ ih _ hstep

/-- Every node has at most one predecessor, no node lists a successor twice, and all successors
lie in `nodes`. -/
structure Forest (succ : κ → List κ) (nodes : List κ) : Prop where
  parent : ∀ k k' c, c ∈ succ k → c ∈ succ k' → k = k'
  nodup : ∀ k, (succ k).Nodup
  inside : ∀ k, ∀ c ∈ succ k, c ∈ nodes

/-- **Enough rounds.**  On a forest every node is queued at most once, and visited at most once. -/
theorem drain_returns {nodes : List κ} (hf : Forest succ nodes)
    (hnodup : (visited ++ queue).Nodup) (hsub : ∀ k ∈ visited ++ queue, k ∈ nodes)
    (hqueue : ∀ c ∈ queue, ∃ k ∈ visited, c ∈ succ k)
    (hfuel : nodes.length ≤ fuel + visited.length) :
    ∃ out, drain succ fuel queue visited = some out ∧ out.Nodup := by
  induction fuel generalizing queue visited with
  | zero =>
    cases queue with
    | nil => exact ⟨visited, rfl, (List.nodup_append.mp hnodup).1⟩
    | cons k queue =>
      have hle := (List.subperm_of_subset hnodup hsub).length_le
      simp only [List.length_append, List.length_cons] at hle
      omega
  | succ fuel ih =>
    cases queue with
    | nil => exact ⟨visited, rfl, (List.nodup_append.mp hnodup).1⟩
    | cons k queue =>
      have hparts := List.nodup_append.mp hnodup
      have hk : k ∉ visited := fun hm => hparts.2.2 k hm k List.mem_cons_self rfl
      have hnew : ∀ c ∈ (succ k).filter (· ∉ k :: visited), c ∈ succ k ∧ c ∉ k :: visited := by
        intro c hc
        obtain ⟨hcs, hnot⟩ := List.mem_filter.mp hc
        exact ⟨hcs, by simpa using hnot⟩
      -- a successor of `k` that waits in the queue would have been queued by a visited node,
      -- which is its only parent `k`
      have hfresh : ∀ c ∈ queue, c ∉ succ k := by
        intro c hc hcs
        obtain ⟨k', hk', hcs'⟩ := hqueue c (List.mem_cons_of_mem _ hc)
        exact hk (hf.parent k' k c hcs' hcs ▸ hk')
      refine ih ?_ ?_ ?_ ?_
      · rw [List.nodup_append]
        refine ⟨List.nodup_cons.mpr ⟨hk, hparts.1⟩, ?_, ?_⟩
        · rw [List.nodup_append]
          refine ⟨(List.nodup_cons.mp hparts.2.1).2, (hf.nodup k).filter _, ?_⟩
          intro a ha b hb hab
          exact hfresh a ha (hab ▸ (hnew b hb).1)
        · intro a ha b hb hab
          rcases List.mem_append.mp hb with hb | hb
          · rcases List.mem_cons.mp ha with he | ha
            · exact (List.nodup_cons.mp hparts.2.1).1 (he ▸ hab ▸ hb)
            · exact hparts.2.2 a ha b (List.mem_cons_of_mem _ hb) hab
          · exact (hnew b hb).2 (hab ▸ ha)
      · intro c hc
        rcases List.mem_append.mp hc with hc | hc
        · rcases List.mem_cons.mp hc with rfl | hc
          · exact hsub _ (List.mem_append_right _ List.mem_cons_self)
          · exact hsub c (List.mem_append_left _ hc)
        · rcases List.mem_append.mp hc with hc | hc
          · exact hsub c (List.mem_append_right _ (List.mem_cons_of_mem _ hc))
          · exact hf.inside k c (hnew c hc).1
      · intro c hc
        rcases List.mem_append.mp hc with hc | hc
        · obtain ⟨k', hk', hcs⟩ := hqueue c (List.mem_cons_of_mem _ hc)
          exact ⟨k', List.mem_cons_of_mem _ hk', hcs⟩
        · exact ⟨k, List.mem_cons_self, (hnew c hc).1⟩
      · rw [List.length_cons]
        omega

/-- The loop started at one node of the forest. -/
theorem drain_root_returns {nodes : List κ} {root : κ} (hf : Forest succ nodes)
    (hroot : root ∈ nodes) (hfuel : nodes.length ≤ fuel) :
    ∃ out, drain succ fuel [root] [] = some out ∧ out.Nodup := by
  have hpos : 0 < nodes.length := List.length_pos_of_mem hroot
  obtain ⟨fuel, rfl⟩ := Nat.exists_eq_succ_of_ne_zero (show fuel ≠ 0 by omega)
  have hnew : ∀ c ∈ (succ root).filter (· ∉ [root]), c ∈ succ root ∧ c ∉ [root] := by
    intro c hc
    obtain ⟨hcs, hnot⟩ := List.mem_filter.mp hc
    exact ⟨hcs, by simpa using hnot⟩
  show ∃ out, drain succ fuel ([] ++ (succ root).filter (· ∉ [root])) [root] = some out ∧ _
  rw [List.nil_append]
  refine drain_returns hf (List.nodup_append.mpr ⟨List.nodup_singleton _, ?_, ?_⟩) ?_ ?_ ?_
  · exact (hf.nodup root).filter _
  · intro a ha b hb hab
    exact (hnew b hb).2 (hab ▸ ha)
  · intro c hc
    rcases List.mem_append.mp hc with hc | hc
    · rw [List.mem_singleton] at hc
      exact hc ▸ hroot
    · exact hf.inside root c (hnew c hc).1
  · intro c hc
    exact ⟨root, List.mem_singleton_self _, (hnew c hc).1⟩
  · rw [List.length_singleton]
    omega

end MandatePlane.Worklist

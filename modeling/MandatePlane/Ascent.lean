import Mathlib.Data.List.Nodup
import Mathlib.Data.List.Perm.Subperm

/-!
# Climbing from node to node

From every node one either stops with a verdict or goes on to one further node.  A
climb that stops meets no node twice, so inside a finite universe as many rounds as
there are nodes are enough to reach its verdict, and a climb that is still going after
that many will never stop.
-/

namespace MandatePlane.Ascent

variable {κ : Type*} {β : Type*} {step : κ → β ⊕ κ}

/-- The climb, for at most `fuel` rounds. -/
def climb (step : κ → β ⊕ κ) : (fuel : ℕ) → κ → Option β
  | 0, _ => none
  | fuel + 1, k =>
    match step k with
    | .inl b => some b
    | .inr k' => climb step fuel k'

/-- The climb from `k` stops with the verdict `b`, after `n` rounds that went on. -/
inductive Stops (step : κ → β ⊕ κ) : ℕ → κ → β → Prop
  | here {k : κ} {b : β} (h : step k = .inl b) : Stops step 0 k b
  | above {n : ℕ} {k k' : κ} {b : β} (h : step k = .inr k') (hstops : Stops step n k' b) :
      Stops step (n + 1) k b

/-- A node has one height and one verdict. -/
theorem Stops.unique {n n' : ℕ} {k : κ} {b b' : β} (h : Stops step n k b)
    (h' : Stops step n' k b') : n = n' ∧ b = b' := by
  induction h generalizing n' b' with
  | here hk =>
    cases h' with
    | here hk' =>
      rw [hk] at hk'
      exact ⟨rfl, Sum.inl.inj hk'⟩
    | above hk' _ =>
      rw [hk] at hk'
      cases hk'
  | above hk _ ih =>
    cases h' with
    | here hk' =>
      rw [hk] at hk'
      cases hk'
    | above hk' hstops' =>
      rw [hk] at hk'
      cases hk'
      obtain ⟨hn, hb⟩ := ih hstops'
      exact ⟨congrArg (· + 1) hn, hb⟩

theorem climb_of_stops {n fuel : ℕ} {k : κ} {b : β} (h : Stops step n k b) (hfuel : n < fuel) :
    climb step fuel k = some b := by
  induction h generalizing fuel with
  | here hk =>
    cases fuel with
    | zero => omega
    | succ fuel => rw [climb, hk]
  | above hk _ ih =>
    cases fuel with
    | zero => omega
    | succ fuel =>
      rw [climb, hk]
      exact ih (by omega)

/-- The nodes a climb leaves, highest last; none of them twice. -/
theorem Stops.path {n : ℕ} {k : κ} {b : β} (h : Stops step n k b) :
    ∃ path : List κ, path.length = n ∧ path.Nodup ∧
      ∀ k' ∈ path, (∃ k'', step k' = .inr k'') ∧ ∃ m, m ≤ n ∧ Stops step m k' b := by
  induction h with
  | here _ => exact ⟨[], rfl, List.nodup_nil, fun _ hm => absurd hm List.not_mem_nil⟩
  | @above n k k' b hk hstops ih =>
    obtain ⟨path, hlength, hnodup, hpath⟩ := ih
    refine ⟨k :: path, ?_, ?_, fun k₁ hm => ?_⟩
    · rw [List.length_cons, hlength]
    · -- a node met again would stop at two heights
      refine List.nodup_cons.mpr ⟨fun hm => ?_, hnodup⟩
      obtain ⟨-, m, hle, hm'⟩ := hpath k hm
      have hsame := (Stops.above hk hstops).unique hm'
      omega
    · rcases List.mem_cons.mp hm with rfl | hm
      · exact ⟨⟨k', hk⟩, n + 1, by omega, .above hk hstops⟩
      · obtain ⟨hnext, m, hle, hm'⟩ := hpath k₁ hm
        exact ⟨hnext, m, by omega, hm'⟩

/-- **Enough rounds.**  The nodes that go on lie in `nodes`. -/
theorem Stops.le_length {n : ℕ} {k : κ} {b : β} (h : Stops step n k b) {nodes : List κ}
    (hnodes : ∀ k k', step k = .inr k' → k ∈ nodes) : n ≤ nodes.length := by
  obtain ⟨path, hlength, hnodup, hpath⟩ := h.path
  have hsub : path ⊆ nodes := by
    intro k hk
    obtain ⟨⟨k', hnext⟩, -⟩ := hpath k hk
    exact hnodes k k' hnext
  have hle := (List.subperm_of_subset hnodup hsub).length_le
  omega

/-! ### Climbs that lower a rank -/

/-- The node after some rounds, if they all went on. -/
def ascend (step : κ → β ⊕ κ) : (rounds : ℕ) → κ → Option κ
  | 0, k => some k
  | rounds + 1, k =>
    match step k with
    | .inl _ => none
    | .inr k' => ascend step rounds k'

/-- **A rank that falls in every round** bounds the climb. -/
theorem stops_of_rank {I : κ → Prop} {rank : κ → ℕ}
    (hstep : ∀ k k', I k → step k = .inr k' → I k' ∧ rank k' < rank k) {k : κ} (hk : I k) :
    ∃ n b, n ≤ rank k ∧ Stops step n k b := by
  induction hr : rank k using Nat.strongRecOn generalizing k with
  | ind r ih =>
    cases hs : step k with
    | inl b => exact ⟨0, b, by omega, .here hs⟩
    | inr k' =>
      obtain ⟨hk', hlt⟩ := hstep k k' hk hs
      obtain ⟨n, b, hn, hstops⟩ := ih (rank k') (by omega) hk' rfl
      exact ⟨n + 1, b, by omega, .above hs hstops⟩

/-- A node on the way has as many rounds less to go. -/
theorem Stops.of_ascend {n i : ℕ} {k a : κ} {b : β} (h : Stops step n k b)
    (ha : ascend step i k = some a) : ∃ m, m + i = n ∧ Stops step m a b := by
  induction i generalizing n k with
  | zero =>
    cases ha
    exact ⟨n, rfl, h⟩
  | succ i ih =>
    cases h with
    | here hk =>
      rw [ascend, hk] at ha
      cases ha
    | above hk hstops =>
      rw [ascend, hk] at ha
      obtain ⟨m, hm, hrest⟩ := ih hstops ha
      exact ⟨m, by omega, hrest⟩

/-- **No node is met twice** by a climb that stops. -/
theorem Stops.ascend_inj {n i j : ℕ} {k a : κ} {b : β} (h : Stops step n k b)
    (hi : ascend step i k = some a) (hj : ascend step j k = some a) : i = j := by
  obtain ⟨m, hm, hrest⟩ := h.of_ascend hi
  obtain ⟨m', hm', hrest'⟩ := h.of_ascend hj
  have hsame := (hrest.unique hrest').1
  omega

end MandatePlane.Ascent

import MandatePlane.KeyedTable
import Mathlib.Algebra.Order.BigOperators.Group.List
import Mathlib.Algebra.Order.Ring.Nat

/-!
# Inner joins with a keyed table

A list whose elements link to the rows of a table by key, joined with the table: every
element meets at most one row, an element without a row is dropped, and a row is met as
often as elements link to it.  Counting over the join is counting row by row.
-/

namespace MandatePlane.JoinedRows

open KeyedTable

universe u v w

variable {ρ : Type u} {κ : Type v} {σ : Type w} [Keyed ρ κ] [DecidableEq κ]

/-- `SELECT ... FROM xs JOIN t ON link = key`, in the order of the list. -/
def join (t : Table ρ) (link : σ → κ) (xs : List σ) : List (σ × ρ) :=
  xs.filterMap fun x => (t.find? (link x)).map fun r => (x, r)

/-- The elements that link to one key. -/
def linked (link : σ → κ) (xs : List σ) (k : κ) : List σ := xs.filter fun x => link x = k

/-! ### Sums that look at one key -/

/-- A weight that only the row with one key has. -/
theorem sum_at_key {M : Type*} [AddMonoid M] (t : Table ρ) (k : κ) (f : ρ → M) :
    t.sum (fun r => if Keyed.key r = k then f r else 0) = ((t.find? k).map f).getD 0 := by
  rcases t with ⟨rows, hn⟩
  simp only [Table.sum, Table.find?]
  induction rows with
  | nil => rfl
  | cons r rows ih =>
    rw [List.map_cons, List.nodup_cons] at hn
    have hrest := ih hn.2
    by_cases hk : Keyed.key r = k
    · have hzero : (rows.map fun r => if Keyed.key r = k then f r else 0).sum = 0 := by
        apply List.sum_eq_zero
        intro y hy
        obtain ⟨r', hr', rfl⟩ := List.mem_map.mp hy
        have hne : Keyed.key r' ≠ k := by
          intro he
          exact hn.1 (List.mem_map.mpr ⟨r', hr', he.trans hk.symm⟩)
        rw [if_neg hne]
      simp [hk, hzero]
    · simp only [List.map_cons, List.sum_cons, if_neg hk, zero_add, hrest, List.find?_cons,
        decide_eq_false hk]

omit [DecidableEq κ] in
/-- Counting rows is summing ones. -/
theorem countP_rows (t : Table ρ) (p : ρ → Bool) :
    t.rows.countP p = t.sum fun r => if p r then 1 else 0 := by
  unfold Table.sum
  induction t.rows with
  | nil => rfl
  | cons r rows ih =>
    rw [List.countP_cons, ih, List.map_cons, List.sum_cons, Nat.add_comm]

omit [DecidableEq κ] in
/-- Weights below others have the same sum exactly where they are the same. -/
theorem sum_eq_sum_iff {t : Table ρ} {f g : ρ → ℕ} (h : ∀ r ∈ t.rows, f r ≤ g r) :
    t.sum f = t.sum g ↔ ∀ r ∈ t.rows, f r = g r := by
  constructor
  · intro heq r hr
    by_contra hne
    have hlt : f r < g r := by
      have hle := h r hr
      omega
    have hsum : t.sum f < t.sum g := List.sum_lt_sum f g h ⟨r, hr, hlt⟩
    omega
  · exact Table.sum_congr

/-! ### Counting over a join -/

/-- **Counting over the join is counting row by row**, over the elements linked to each row. -/
theorem countP_join (t : Table ρ) (link : σ → κ) (xs : List σ) (p : σ → ρ → Bool) :
    (join t link xs).countP (fun z => p z.1 z.2) =
      t.sum fun r => (linked link xs (Keyed.key r)).countP fun x => p x r := by
  induction xs with
  | nil => exact (Table.sum_eq_zero fun _ _ => rfl).symm
  | cons x xs ih =>
    -- the head is counted at the row it links to, if there is one
    have hhead : (join t link (x :: xs)).countP (fun z => p z.1 z.2) =
        ((t.find? (link x)).map fun r => if p x r then 1 else 0).getD 0 +
          (join t link xs).countP fun z => p z.1 z.2 := by
      unfold join
      rw [List.filterMap_cons]
      cases t.find? (link x) with
      | none => simp
      | some r => simp [List.countP_cons, Nat.add_comm]
    have hrow (r : ρ) : (linked link (x :: xs) (Keyed.key r)).countP (fun x => p x r) =
        (if Keyed.key r = link x then (if p x r then 1 else 0) else 0) +
          (linked link xs (Keyed.key r)).countP fun x => p x r := by
      unfold linked
      by_cases hk : Keyed.key r = link x
      · simp [hk, List.countP_cons, Nat.add_comm]
      · simp [hk, Ne.symm hk]
    rw [hhead, ih, ← sum_at_key]
    simp only [hrow]
    exact (List.sum_map_add).symm

end MandatePlane.JoinedRows

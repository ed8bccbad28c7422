import Mathlib.Data.List.Basic

/-!
# Steps of which the first with a key decides

Steps carry a key.  Steps with different keys commute, and after a step with some key
the others with that key do nothing.  Then a list of steps does what the first step of
each key does: two lists that agree on these lead to the same state, whatever their
order and however often they repeat themselves.
-/

namespace MandatePlane.FirstDecides

variable {σ β κ : Type*} [DecidableEq κ]

/-- Steps with different keys commute; the first step with a key leaves the others nothing. -/
structure DecidedByFirst (step : σ → β → σ) (key : β → κ) : Prop where
  comm : ∀ s x y, key x ≠ key y → step (step s x) y = step (step s y) x
  done : ∀ s x y, key x = key y → step (step s x) y = step s x

/-- The first step with a key. -/
def leading (key : β → κ) (xs : List β) (k : κ) : Option β := xs.find? fun x => key x = k

/-- The steps with other keys. -/
def others (key : β → κ) (xs : List β) (k : κ) : List β := xs.filter fun x => key x ≠ k

variable {step : σ → β → σ} {key : β → κ}

theorem leading_mem {xs : List β} {k : κ} {x : β} (h : leading key xs k = some x) :
    x ∈ xs ∧ key x = k := by
  have hfind : xs.find? (fun x => decide (key x = k)) = some x := h
  exact ⟨List.mem_of_find?_eq_some hfind, by simpa using List.find?_some hfind⟩

theorem leading_cons (x : β) (xs : List β) (k : κ) :
    leading key (x :: xs) k = if key x = k then some x else leading key xs k := by
  unfold leading
  rw [List.find?_cons]
  by_cases hk : key x = k <;> simp [hk]

theorem others_cons_of_eq {x : β} (xs : List β) {k : κ} (h : key x = k) :
    others key (x :: xs) k = others key xs k := by
  simp [others, h]

theorem others_cons_of_ne {x : β} (xs : List β) {k : κ} (h : key x ≠ k) :
    others key (x :: xs) k = x :: others key xs k := by
  simp [others, h]

/-- Leaving out one key leaves the first steps of the other keys. -/
theorem leading_others (xs : List β) (k k' : κ) :
    leading key (others key xs k) k' = if k' = k then none else leading key xs k' := by
  induction xs with
  | nil => split <;> rfl
  | cons x xs ih =>
    by_cases hx : key x = k
    · rw [others_cons_of_eq xs hx, ih, leading_cons]
      by_cases hk : k' = k
      · rw [if_pos hk, if_pos hk]
      · have hne : key x ≠ k' := fun he => hk (he.symm.trans hx)
        rw [if_neg hk, if_neg hk, if_neg hne]
    · rw [others_cons_of_ne xs hx, leading_cons, ih, leading_cons]
      by_cases hx' : key x = k'
      · have hk : k' ≠ k := fun he => hx (hx'.trans he)
        rw [if_pos hx', if_pos hx', if_neg hk]
      · rw [if_neg hx', if_neg hx']

/-- After a step only the steps with other keys count. -/
theorem foldl_decided (h : DecidedByFirst step key) (s : σ) (x : β) (xs : List β) :
    xs.foldl step (step s x) = (others key xs (key x)).foldl step (step s x) := by
  induction xs generalizing s with
  | nil => rfl
  | cons y ys ih =>
    by_cases hy : key y = key x
    · rw [others_cons_of_eq ys hy, List.foldl_cons, h.done s x y hy.symm]
      exact ih s
    · rw [others_cons_of_ne ys hy, List.foldl_cons, List.foldl_cons,
        h.comm s x y fun he => hy he.symm]
      exact ih (step s y)

/-- The first step of a key can be taken first of all. -/
theorem foldl_leading (h : DecidedByFirst step key) {xs : List β} {x : β}
    (hx : leading key xs (key x) = some x) (s : σ) :
    xs.foldl step s = (others key xs (key x)).foldl step (step s x) := by
  induction xs generalizing s with
  | nil => cases hx
  | cons y ys ih =>
    rw [leading_cons] at hx
    by_cases hy : key y = key x
    · rw [if_pos hy] at hx
      cases hx
      rw [List.foldl_cons, others_cons_of_eq ys rfl]
      exact foldl_decided h s x ys
    · rw [if_neg hy] at hx
      rw [others_cons_of_ne ys hy, List.foldl_cons, List.foldl_cons, ih hx,
        h.comm s y x hy]

/-- **The first steps decide.**  Lists with the same first step for every key lead to the same
state. -/
theorem foldl_eq_of_leading (h : DecidedByFirst step key) {xs ys : List β}
    (hsame : ∀ k, leading key xs k = leading key ys k) (s : σ) :
    xs.foldl step s = ys.foldl step s := by
  induction hn : xs.length using Nat.strongRecOn generalizing xs ys s with
  | _ n ih =>
    cases xs with
    | nil =>
      cases ys with
      | nil => rfl
      | cons y ys =>
        have hnone := hsame (key y)
        rw [leading_cons, if_pos rfl] at hnone
        cases hnone
    | cons x xs =>
      have hx : leading key (x :: xs) (key x) = some x := by rw [leading_cons, if_pos rfl]
      have hy : leading key ys (key x) = some x := (hsame (key x)).symm.trans hx
      have hshort : (others key (x :: xs) (key x)).length < n := by
        rw [others_cons_of_eq xs rfl, ← hn]
        exact Nat.lt_succ_of_le (List.length_filter_le _ _)
      rw [foldl_leading h hx, foldl_leading h hy]
      refine ih _ hshort (fun k => ?_) _ rfl
      rw [leading_others, leading_others, hsame k]

end MandatePlane.FirstDecides

import Mathlib.Order.MinMax

/-!
# Logs that forget

A log keeps entries in order and drops, at a cutoff, what has expired.  Two logs that
were written to in the same way, except that one of them also took entries of a second
kind, show the same to every reader that sees none of those: such logs agree.

Pruning both logs, or appending the same entry to both, keeps them in agreement.  So does
pruning or appending an entry of the second kind to the one log alone, for the readers
whose cutoff comes no earlier than that pruning.
-/

namespace MandatePlane.PrunedLog

/-- A way of dropping expired entries.  The later cutoff decides; appending hides no entry, and an
entry that is dropped as soon as it is appended was not needed. -/
structure Pruning (κ : Type*) [LinearOrder κ] (ε : Type*) where
  prune : κ → List ε → List ε
  prune_prune : ∀ c c' l, prune c (prune c' l) = prune (max c c') l
  prune_append : ∀ c l e, prune c (l ++ [e]) = prune c (prune c l ++ [e])
  mem_append : ∀ c l e e', e' ∈ prune c l → e' ∈ prune c (l ++ [e])
  append_of_not_mem : ∀ c l e, e ∉ prune c (l ++ [e]) → prune c (l ++ [e]) = prune c l

variable {κ : Type*} [LinearOrder κ] {ε : Type*} {P : Pruning κ ε} {D D' : κ → Prop}
  {clean : ε → Prop} {l l₀ : List ε}

/-- **Agreement**: a reader at a cutoff in `D` who sees only clean entries in `l` sees the same in
`l₀`. -/
def Agree (P : Pruning κ ε) (D : κ → Prop) (clean : ε → Prop) (l l₀ : List ε) : Prop :=
  ∀ c, D c → (∀ e ∈ P.prune c l, clean e) → P.prune c l = P.prune c l₀

namespace Agree

theorem refl (P : Pruning κ ε) (D : κ → Prop) (clean : ε → Prop) (l : List ε) :
    Agree P D clean l l := fun _ _ _ => rfl

theorem mono (h : Agree P D clean l l₀) (hD : ∀ c, D' c → D c) : Agree P D' clean l l₀ :=
  fun c hc => h c (hD c hc)

/-- Both logs are pruned. -/
theorem prune_both (h : Agree P D clean l l₀) {c₀ : κ} (hc₀ : D c₀) :
    Agree P D clean (P.prune c₀ l) (P.prune c₀ l₀) := by
  intro c hc hclean
  rw [P.prune_prune] at hclean ⊢
  rw [P.prune_prune]
  refine h _ ?_ hclean
  rcases max_choice c c₀ with he | he
  · rw [he]
    exact hc
  · rw [he]
    exact hc₀

/-- Both logs take the same entry. -/
theorem append_both (h : Agree P D clean l l₀) (e : ε) :
    Agree P D clean (l ++ [e]) (l₀ ++ [e]) := by
  intro c hc hclean
  have hsame := h c hc fun e' he' => hclean e' (P.mem_append c l e e' he')
  rw [P.prune_append c l, P.prune_append c l₀, hsame]

/-- Both logs take the same entries. -/
theorem append_all (h : Agree P D clean l l₀) (entries : List ε) :
    Agree P D clean (l ++ entries) (l₀ ++ entries) := by
  induction entries generalizing l l₀ with
  | nil => simpa using h
  | cons e entries ih =>
    rw [List.append_cons l, List.append_cons l₀]
    exact ih (h.append_both e)

/-- The one log is pruned, and its readers come later. -/
theorem prune_left (h : Agree P D clean l l₀) {c₀ : κ} (hD : ∀ c, D' c → D c ∧ c₀ ≤ c) :
    Agree P D' clean (P.prune c₀ l) l₀ := by
  intro c hc hclean
  obtain ⟨hcD, hle⟩ := hD c hc
  rw [P.prune_prune, max_eq_left hle] at hclean ⊢
  exact h c hcD hclean

/-- The one log takes an entry that is not clean. -/
theorem append_left (h : Agree P D clean l l₀) {e : ε} (he : ¬ clean e) :
    Agree P D clean (l ++ [e]) l₀ := by
  intro c hc hclean
  have hdropped : e ∉ P.prune c (l ++ [e]) := fun hmem => he (hclean e hmem)
  rw [P.append_of_not_mem c l e hdropped] at hclean ⊢
  exact h c hc hclean

end Agree

/-! ### Two prunings by age -/

section ByAge

variable (time : ε → κ)

/-- Every entry that is not younger than the cutoff goes. -/
def sweep : Pruning κ ε where
  prune c l := l.filter fun e => c < time e
  prune_prune c c' l := by
    rw [List.filter_filter]
    congr 1
    funext e
    rw [← Bool.decide_and]
    exact decide_eq_decide.mpr max_lt_iff.symm
  prune_append c l e := by simp [List.filter_append, List.filter_filter]
  mem_append c l e e' h := by
    rw [List.filter_append]
    exact List.mem_append_left _ h
  append_of_not_mem c l e h := by
    rw [List.filter_append] at h ⊢
    have hold : ¬ c < time e := by
      intro hnew
      refine h (List.mem_append_right _ ?_)
      rw [List.mem_filter]
      exact ⟨List.mem_singleton_self e, decide_eq_true hnew⟩
    rw [List.filter_cons_of_neg (by simpa using hold), List.filter_nil, List.append_nil]

/-- Entries go from the front, up to the first that is younger than the cutoff. -/
def unqueue : Pruning κ ε where
  prune c l := l.dropWhile fun e => time e ≤ c
  prune_prune c c' l := by
    induction l with
    | nil => rfl
    | cons e l ih =>
      by_cases h : time e ≤ c'
      · have hmax : time e ≤ max c c' := h.trans (le_max_right c c')
        rw [List.dropWhile_cons_of_pos (by simpa using h),
          List.dropWhile_cons_of_pos (by simpa using hmax), ih]
      · rw [List.dropWhile_cons_of_neg (by simpa using h)]
        by_cases h' : time e ≤ c
        · have hmax : time e ≤ max c c' := h'.trans (le_max_left c c')
          rw [List.dropWhile_cons_of_pos (by simpa using h'),
            List.dropWhile_cons_of_pos (by simpa using hmax)]
          have hle : c' ≤ c := (not_le.mp h).le.trans h'
          rw [max_eq_left hle]
        · have hmax : ¬ time e ≤ max c c' := by simp [h, h']
          rw [List.dropWhile_cons_of_neg (by simpa using h'),
            List.dropWhile_cons_of_neg (by simpa using hmax)]
  prune_append c l e := by
    induction l with
    | nil => rfl
    | cons e' l ih =>
      by_cases h : time e' ≤ c
      · rw [List.cons_append, List.dropWhile_cons_of_pos (by simpa using h), ih,
          List.dropWhile_cons_of_pos (by simpa using h)]
      · rw [List.cons_append, List.dropWhile_cons_of_neg (by simpa using h),
          List.dropWhile_cons_of_neg (by simpa using h), List.cons_append,
          List.dropWhile_cons_of_neg (by simpa using h)]
  mem_append c l e e' hmem := by
    induction l with
    | nil => cases hmem
    | cons e₁ l ih =>
      by_cases h : time e₁ ≤ c
      · rw [List.dropWhile_cons_of_pos (by simpa using h)] at hmem
        rw [List.cons_append, List.dropWhile_cons_of_pos (by simpa using h)]
        exact ih hmem
      · rw [List.dropWhile_cons_of_neg (by simpa using h)] at hmem
        rw [List.cons_append, List.dropWhile_cons_of_neg (by simpa using h)]
        exact List.mem_append_left [e] hmem
  append_of_not_mem c l e hmem := by
    induction l with
    | nil =>
      by_cases h : time e ≤ c
      · exact List.dropWhile_cons_of_pos (by simpa using h)
      · rw [List.nil_append, List.dropWhile_cons_of_neg (by simpa using h)] at hmem
        exact absurd (List.mem_singleton_self e) hmem
    | cons e₁ l ih =>
      by_cases h : time e₁ ≤ c
      · rw [List.cons_append, List.dropWhile_cons_of_pos (by simpa using h)] at hmem ⊢
        rw [List.dropWhile_cons_of_pos (by simpa using h)]
        exact ih hmem
      · rw [List.cons_append, List.dropWhile_cons_of_neg (by simpa using h)] at hmem
        exact absurd (List.mem_append_right (e₁ :: l) (List.mem_singleton_self e)) hmem

/-- In the order of their times, what goes from the front is all that is too old. -/
theorem unqueue_of_sorted {c : κ} (h : l.Pairwise fun e e' => time e ≤ time e') :
    (unqueue time).prune c l = (sweep time).prune c l := by
  show l.dropWhile (fun e => time e ≤ c) = l.filter fun e => c < time e
  induction l with
  | nil => rfl
  | cons e l ih =>
    obtain ⟨hhead, htail⟩ := List.pairwise_cons.mp h
    by_cases hold : time e ≤ c
    · rw [List.dropWhile_cons_of_pos (by simpa using hold),
        List.filter_cons_of_neg (by simpa using hold)]
      exact ih htail
    · have hall : ∀ e' ∈ e :: l, decide (c < time e') = true := by
        intro e' he'
        rw [decide_eq_true_eq]
        rcases List.mem_cons.mp he' with rfl | he'
        · exact not_le.mp hold
        · exact (not_le.mp hold).trans_le (hhead e' he')
      rw [List.dropWhile_cons_of_neg (by simpa using hold), List.filter_eq_self.mpr hall]

end ByAge

end MandatePlane.PrunedLog

import Mathlib.Algebra.BigOperators.Group.List.Basic
import Mathlib.Algebra.Order.BigOperators.Group.List
import Mathlib.Algebra.Order.Group.Defs
import Mathlib.Tactic.Abel
import Mathlib.Tactic.Linarith

/-!
# Logs that keep to a sliding window

An entry has a time and a cost.  It fits a log if its cost, with the cost of what the log
has taken within the window before it, is at most a limit.  A log that only took entries
that fitted never holds more than the limit within a span that is shorter than the window.
-/

namespace MandatePlane.SlidingWindow

variable {τ : Type*} [LinearOrder τ] {ε : Type*}

section Sums

variable (time : ε → τ) (cost : ε → ℤ)

/-- The cost of the entries that are younger than the cutoff. -/
def spentSince (cutoff : τ) (log : List ε) : ℤ :=
  ((log.filter fun e => cutoff < time e).map cost).sum

/-- The cost of the entries between two times. -/
def spentWithin (first last : τ) (log : List ε) : ℤ :=
  ((log.filter fun e => first ≤ time e ∧ time e ≤ last).map cost).sum

variable {time cost} {first last : τ} {log : List ε} {e : ε}

theorem spentSince_append (cutoff : τ) (log log' : List ε) :
    spentSince time cost cutoff (log ++ log') =
      spentSince time cost cutoff log + spentSince time cost cutoff log' := by
  rw [spentSince, List.filter_append, List.map_append, List.sum_append]
  rfl

theorem spentWithin_snoc_of_mem (hfirst : first ≤ time e) (hlast : time e ≤ last) :
    spentWithin time cost first last (log ++ [e]) =
      spentWithin time cost first last log + cost e := by
  unfold spentWithin
  rw [List.filter_append, List.filter_cons_of_pos (by simp [hfirst, hlast]), List.filter_nil,
    List.map_append, List.sum_append, List.map_singleton, List.sum_singleton]

theorem spentWithin_snoc_of_not_mem (h : ¬ (first ≤ time e ∧ time e ≤ last)) :
    spentWithin time cost first last (log ++ [e]) = spentWithin time cost first last log := by
  unfold spentWithin
  rw [List.filter_append, List.filter_cons_of_neg (by simpa using h), List.filter_nil,
    List.append_nil]

/-- Fewer entries cost less, where no cost is negative. -/
theorem sum_filter_le {p q : ε → Bool} (hcost : ∀ e ∈ log, 0 ≤ cost e)
    (hpq : ∀ e ∈ log, p e = true → q e = true) :
    ((log.filter p).map cost).sum ≤ ((log.filter q).map cost).sum := by
  induction log with
  | nil => exact le_refl _
  | cons e log ih =>
    have htail := ih (fun e he => hcost e (List.mem_cons_of_mem _ he))
      (fun e he => hpq e (List.mem_cons_of_mem _ he))
    have hhead := hcost e List.mem_cons_self
    have himp := hpq e List.mem_cons_self
    rw [List.filter_cons, List.filter_cons]
    cases hp : p e with
    | true =>
      rw [himp hp, if_pos rfl, if_pos rfl, List.map_cons, List.map_cons, List.sum_cons,
        List.sum_cons]
      omega
    | false =>
      rw [if_neg Bool.false_ne_true]
      cases hq : q e with
      | true =>
        rw [if_pos rfl, List.map_cons, List.sum_cons]
        omega
      | false =>
        rw [if_neg Bool.false_ne_true]
        exact htail

end Sums

section Window

variable [AddCommGroup τ]

/-- **Fitted**: every entry fitted the log when it was taken. -/
inductive Fitted (time : ε → τ) (cost : ε → ℤ) (limit : ℤ) (window : τ) : List ε → Prop
  | nil : Fitted time cost limit window []
  | snoc {log : List ε} {e : ε} (h : Fitted time cost limit window log)
      (hfit : spentSince time cost (time e - window) log + cost e ≤ limit) :
      Fitted time cost limit window (log ++ [e])

variable [IsOrderedAddMonoid τ] {time : ε → τ} {cost : ε → ℤ} {limit : ℤ}
  {window first last : τ} {log : List ε}

/-- **The limit holds in every span that is shorter than the window.** -/
theorem Fitted.spentWithin_le (h : Fitted time cost limit window log)
    (hcost : ∀ e ∈ log, 0 ≤ cost e) (hspan : last - first < window) :
    spentWithin time cost first last log ≤ max limit 0 := by
  induction h with
  | nil => exact le_max_right limit 0
  | @snoc log e h hfit ih =>
    have hcost' : ∀ e ∈ log, 0 ≤ cost e := fun e he => hcost e (List.mem_append_left _ he)
    by_cases hmem : first ≤ time e ∧ time e ≤ last
    · -- the other entries of the span are younger than the cutoff of the newest
      have hyoung : time e - window < first := by
        have hle : time e - first ≤ last - first := sub_le_sub_right hmem.2 first
        exact sub_lt_comm.mp (lt_of_le_of_lt hle hspan)
      have hle : spentWithin time cost first last log ≤
          spentSince time cost (time e - window) log := by
        refine sum_filter_le hcost' fun e' _ he' => ?_
        have hspan' := of_decide_eq_true he'
        exact decide_eq_true (lt_of_lt_of_le hyoung hspan'.1)
      rw [spentWithin_snoc_of_mem hmem.1 hmem.2]
      exact le_max_of_le_left (by omega)
    · rw [spentWithin_snoc_of_not_mem hmem]
      exact ih hcost'

end Window

end MandatePlane.SlidingWindow

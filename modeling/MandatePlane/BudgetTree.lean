import Mathlib.Algebra.BigOperators.Group.List.Basic
import Mathlib.Algebra.Order.Group.Defs
import Mathlib.Data.List.Nodup
import Mathlib.Logic.Relation
import Mathlib.Tactic.Abel

/-!
# Budgets down a tree

Nodes have a limit and possibly a parent, and are listed as they were added: a node
comes after its parent and under a new id.  When every node keeps what it uses itself
and the limits of its children together within its own limit, it also keeps within it
everything that is used at and below it.

The proof takes the node that was added last.  It is a leaf, so it uses at most its
limit; charging that limit to its parent leaves a smaller tree in which every node
still keeps within its limit.
-/

namespace MandatePlane.BudgetTree

open Relation

structure Node (κ M : Type*) where
  id : κ
  parent : Option κ
  limit : M

variable {κ M : Type*}

/-- Lists grown node by node, each under a new id and, if it has a parent, below a node that is
there. -/
inductive Grown : List (Node κ M) → Prop
  | nil : Grown []
  | grow {ns : List (Node κ M)} {n : Node κ M} (h : Grown ns) (hnew : ∀ x ∈ ns, x.id ≠ n.id)
      (hparent : ∀ p, n.parent = some p → ∃ x ∈ ns, x.id = p) : Grown (ns ++ [n])

/-- The node `k` has the parent `p`. -/
def Link (ns : List (Node κ M)) (k p : κ) : Prop := ∃ n ∈ ns, n.id = k ∧ n.parent = some p

/-- `k` is `root` or below it. -/
def Within (ns : List (Node κ M)) (root k : κ) : Prop := ReflTransGen (Link ns) k root

/-! ### The shape of a grown list -/

section Shape

variable {ns : List (Node κ M)} {n : Node κ M} {root k p : κ}

theorem link_append : Link (ns ++ [n]) k p ↔ Link ns k p ∨ n.id = k ∧ n.parent = some p := by
  simp only [Link, List.mem_append, List.mem_singleton, or_and_right, exists_or, exists_eq_left]

theorem Grown.parent_mem (h : Grown ns) (hl : Link ns k p) : ∃ x ∈ ns, x.id = p := by
  induction h with
  | nil =>
    obtain ⟨x, hx, -⟩ := hl
    cases hx
  | @grow ns n _ _ hparent ih =>
    have hold : ∃ x ∈ ns, x.id = p := by
      rcases link_append.mp hl with hl | ⟨-, hp⟩
      · exact ih hl
      · exact hparent p hp
    obtain ⟨x, hx, hid⟩ := hold
    exact ⟨x, List.mem_append_left _ hx, hid⟩

theorem Grown.nodup (h : Grown ns) : (ns.map Node.id).Nodup := by
  induction h with
  | nil => exact List.nodup_nil
  | @grow ns n _ hnew _ ih =>
    rw [List.map_append, List.map_singleton]
    refine List.nodup_append.mpr ⟨ih, List.nodup_singleton _, fun a ha b hb hab => ?_⟩
    obtain ⟨x, hx, rfl⟩ := List.mem_map.mp ha
    exact hnew x hx (hab.trans (List.mem_singleton.mp hb))

/-- Above a node of the list there are only nodes of the list. -/
theorem Grown.root_mem (h : Grown ns) (hk : ∃ x ∈ ns, x.id = k) (hw : Within ns root k) :
    ∃ x ∈ ns, x.id = root := by
  cases hw with
  | refl => exact hk
  | tail _ hl => exact h.parent_mem hl

/-- A new leaf does not matter above the old nodes. -/
theorem within_old (h : Grown ns) (hnew : ∀ x ∈ ns, x.id ≠ n.id) (hk : ∃ x ∈ ns, x.id = k) :
    Within (ns ++ [n]) root k ↔ Within ns root k := by
  constructor
  · intro hw
    revert hk
    refine ReflTransGen.head_induction_on hw (fun _ => .refl) ?_
    intro a b hl _ ih hk
    have hold : Link ns a b := by
      rcases link_append.mp hl with hl | ⟨hid, -⟩
      · exact hl
      · obtain ⟨x, hx, hxid⟩ := hk
        exact absurd (hxid.trans hid.symm) (hnew x hx)
    exact .head hold (ih (h.parent_mem hold))
  · intro hw
    have hmono : Link ns ≤ Link (ns ++ [n]) := fun _ _ hl => link_append.mpr (.inl hl)
    exact ReflTransGen.mono hmono _ _ hw

/-- A new leaf is below itself and whatever its parent is below. -/
theorem within_new (h : Grown ns) (hnew : ∀ x ∈ ns, x.id ≠ n.id)
    (hparent : ∀ p, n.parent = some p → ∃ x ∈ ns, x.id = p) :
    Within (ns ++ [n]) root n.id ↔ root = n.id ∨ ∃ p, n.parent = some p ∧ Within ns root p := by
  constructor
  · intro hw
    rcases ReflTransGen.cases_head hw with he | ⟨p, hl, hw⟩
    · exact .inl he.symm
    · rcases link_append.mp hl with ⟨x, hx, hid, -⟩ | ⟨-, hp⟩
      · exact absurd hid (hnew x hx)
      · exact .inr ⟨p, hp, (within_old h hnew (hparent p hp)).mp hw⟩
  · rintro (rfl | ⟨p, hp, hw⟩)
    · exact .refl
    · exact .head (link_append.mpr (.inr ⟨rfl, hp⟩)) ((within_old h hnew (hparent p hp)).mpr hw)

end Shape

/-! ### Sums -/

section Sums

variable [AddCommGroup M] {ns : List (Node κ M)} {n : Node κ M}

open Classical in
/-- What is used at `root` and below it. -/
noncomputable def usedWithin (ns : List (Node κ M)) (used : κ → M) (root : κ) : M :=
  (ns.map fun n => if Within ns root n.id then used n.id else 0).sum

theorem usedWithin_add (used extra : κ → M) (root : κ) :
    usedWithin ns (fun k => used k + extra k) root =
      usedWithin ns used root + usedWithin ns extra root := by
  rw [usedWithin, usedWithin, usedWithin, ← List.sum_map_add]
  congr 1
  apply List.map_congr_left
  intro n _
  split
  · rfl
  · exact (add_zero 0).symm

theorem usedWithin_eq_zero {used : κ → M} {root : κ}
    (h : ∀ n ∈ ns, Within ns root n.id → used n.id = 0) : usedWithin ns used root = 0 := by
  apply List.sum_eq_zero
  intro y hy
  obtain ⟨x, hx, rfl⟩ := List.mem_map.mp hy
  split
  · rename_i hw
    exact h x hx hw
  · rfl

open Classical in
/-- The use of a list that has grown by a leaf. -/
theorem usedWithin_append (h : Grown ns) (hnew : ∀ x ∈ ns, x.id ≠ n.id) (used : κ → M) (root : κ) :
    usedWithin (ns ++ [n]) used root =
      usedWithin ns used root + if Within (ns ++ [n]) root n.id then used n.id else 0 := by
  rw [usedWithin, List.map_append, List.sum_append, List.map_singleton, List.sum_singleton]
  congr 2
  apply List.map_congr_left
  intro x hx
  simp only [within_old h hnew ⟨x, hx, rfl⟩]

variable [DecidableEq κ]

open Classical in
/-- Use at one node. -/
theorem usedWithin_single (h : Grown ns) {p root : κ} (hp : ∃ x ∈ ns, x.id = p) (amount : M) :
    usedWithin ns (fun k => if k = p then amount else 0) root =
      if Within ns root p then amount else 0 := by
  obtain ⟨x, hx, rfl⟩ := hp
  have hone : ns.count x = 1 := List.count_eq_one_of_mem (List.Nodup.of_map _ h.nodup) hx
  rw [usedWithin, List.sum_map_eq_nsmul_single x, hone, one_nsmul, if_pos rfl]
  intro y hne hy
  have hid : y.id ≠ x.id := fun he => hne (List.inj_on_of_nodup_map h.nodup hy hx he)
  rw [if_neg hid, ite_self]

/-- The limits of the children of `k`. -/
def childLimits (ns : List (Node κ M)) (k : κ) : M :=
  (ns.map fun n => if n.parent = some k then n.limit else 0).sum

theorem childLimits_append (k : κ) : childLimits (ns ++ [n]) k =
    childLimits ns k + if n.parent = some k then n.limit else 0 := by
  simp [childLimits]

/-- Nothing is below an id that is not there. -/
theorem childLimits_of_new (h : Grown ns) {k : κ} (hnew : ∀ x ∈ ns, x.id ≠ k) :
    childLimits ns k = 0 := by
  apply List.sum_eq_zero
  intro y hy
  obtain ⟨x, hx, rfl⟩ := List.mem_map.mp hy
  rw [if_neg]
  intro hp
  obtain ⟨z, hz, hid⟩ := h.parent_mem ⟨x, hx, rfl, hp⟩
  exact hnew z hz hid

variable [PartialOrder M] [IsOrderedAddMonoid M]

/-- **Containment.**  If every node keeps its own use and its children's limits within its limit,
it keeps everything that is used at and below it within its limit. -/
theorem usedWithin_le (h : Grown ns) {used : κ → M}
    (hroom : ∀ n ∈ ns, used n.id + childLimits ns n.id ≤ n.limit) :
    ∀ n ∈ ns, usedWithin ns used n.id ≤ n.limit := by
  induction h generalizing used with
  | nil =>
    intro n hn
    cases hn
  | @grow ns leaf h hnew hparent ih =>
    have hleaf : used leaf.id ≤ leaf.limit := by
      have hle := hroom leaf (List.mem_append_right _ (List.mem_singleton_self _))
      rw [childLimits_append, childLimits_of_new h hnew, if_neg, add_zero, add_zero] at hle
      · exact hle
      · intro hp
        obtain ⟨x, hx, hid⟩ := hparent _ hp
        exact hnew x hx hid
    -- the leaf's limit charged to its parent
    let charge : κ → M := fun k => if leaf.parent = some k then leaf.limit else 0
    have hcharged : ∀ n ∈ ns, usedWithin ns (fun k => used k + charge k) n.id ≤ n.limit := by
      refine ih fun n hn => ?_
      have hle := hroom n (List.mem_append_left _ hn)
      rw [childLimits_append] at hle
      calc used n.id + charge n.id + childLimits ns n.id
          = used n.id + (childLimits ns n.id + charge n.id) := by abel
        _ ≤ n.limit := hle
    intro n hn
    rw [usedWithin_append h hnew]
    rcases List.mem_append.mp hn with hn | hn
    · refine le_trans ?_ (hcharged n hn)
      rw [usedWithin_add]
      refine add_le_add le_rfl ?_
      have hne : n.id ≠ leaf.id := hnew n hn
      cases hp : leaf.parent with
      | none =>
        rw [if_neg, usedWithin_eq_zero fun x _ _ => if_neg (by rw [hp]; exact nofun)]
        rw [within_new h hnew hparent, hp]
        rintro (he | ⟨p, hp', -⟩)
        · exact hne he
        · cases hp'
      | some p =>
        have hcharge : charge = fun k => if k = p then leaf.limit else 0 := by
          funext k
          simp only [charge, hp, Option.some.injEq, eq_comm]
        rw [hcharge, usedWithin_single h (hparent p hp)]
        have hiff : Within (ns ++ [leaf]) n.id leaf.id ↔ Within ns n.id p := by
          rw [within_new h hnew hparent, hp]
          simp [hne]
        by_cases hw : Within ns n.id p
        · rw [if_pos (hiff.mpr hw), if_pos hw]
          exact hleaf
        · rw [if_neg fun hw' => hw (hiff.mp hw'), if_neg hw]
    · rw [List.mem_singleton] at hn
      subst hn
      have hself : Within (ns ++ [n]) n.id n.id := ReflTransGen.refl
      rw [usedWithin_eq_zero, zero_add, if_pos hself]
      · exact hleaf
      · intro x hx hw
        obtain ⟨y, hy, hid⟩ := h.root_mem ⟨x, hx, rfl⟩ hw
        exact absurd hid (hnew y hy)

end Sums

end MandatePlane.BudgetTree

import Mathlib.Data.List.Forall2
import Mathlib.Data.List.Nodup
import Mathlib.Data.Option.Defs
import Mathlib.Algebra.BigOperators.Group.List.Basic
import Mathlib.Algebra.Order.BigOperators.Group.List
import Mathlib.Algebra.Group.Basic
import Mathlib.Tactic.Abel

/-!
# Tables with a primary key

A database table is a list of rows in insertion order whose keys are pairwise
distinct.  The distinctness is a field of the table, so a table that breaks its
primary key cannot be built and no later proof has to carry it.

The operations are the statements a handler issues: look a row up by key, insert
a row with a new key, update the row with a given key, update every row.  The
lemmas say how a lookup and a sum over the rows change under each of them; a sum
changes by the new weight minus the old weight of the one row that was written.
-/

namespace MandatePlane.KeyedTable

universe u v

/-- Rows of type `ρ` carry a primary key of type `κ`. -/
class Keyed (ρ : Type u) (κ : outParam (Type v)) where
  key : ρ → κ

/-- How a rewrite shows by computation that it keeps the key. -/
theorem key_kept {κ : Type v} {a b : κ} (h : a = b) : a = b := h

/-- A table: rows in insertion order, no two with the same key. -/
structure Table (ρ : Type u) {κ : Type v} [Keyed ρ κ] where
  rows : List ρ
  nodup : (rows.map Keyed.key).Nodup

variable {ρ : Type u} {κ : Type v} [Keyed ρ κ]

namespace Table

theorem ext {t t' : Table ρ} (h : t.rows = t'.rows) : t = t' := by
  cases t
  cases t'
  cases h
  rfl

/-- The table without rows. -/
def empty : Table ρ := ⟨[], List.nodup_nil⟩

/-- Rewrite every row, or view it as a row of another kind, by a function that keeps the key. -/
def mapRows {σ : Type*} [Keyed σ κ] (t : Table ρ) (f : ρ → σ)
    (hf : ∀ r, Keyed.key (f r) = Keyed.key r := by intro r; exact key_kept rfl) : Table σ where
  rows := t.rows.map f
  nodup := by
    rw [List.map_map, show (Keyed.key ∘ f : ρ → κ) = Keyed.key from funext hf]
    exact t.nodup

variable [DecidableEq κ]

/-- The row with key `k`. -/
def find? (t : Table ρ) (k : κ) : Option ρ := t.rows.find? fun r => decide (Keyed.key r = k)

/-- Append a row; a key that is taken violates the primary key and nothing is inserted. -/
def insert (t : Table ρ) (r : ρ) : Option (Table ρ) :=
  if h : Keyed.key r ∈ t.rows.map Keyed.key then none
  else some ⟨t.rows ++ [r], by
    rw [List.map_append, List.map_singleton]
    exact List.nodup_append.mpr ⟨t.nodup, List.nodup_singleton _, fun a ha b hb hab =>
      h (by rw [List.mem_singleton] at hb; exact hb ▸ hab ▸ ha)⟩⟩

/-- Rewrite the row with key `k`, if there is one, by a function that keeps the key. -/
def modify (t : Table ρ) (k : κ) (f : ρ → ρ)
    (hf : ∀ r, Keyed.key (f r) = Keyed.key r := by intro r; exact key_kept rfl) : Table ρ :=
  t.mapRows (fun r => if Keyed.key r = k then f r else r) fun r => by
    by_cases h : Keyed.key r = k
    · rw [if_pos h]; exact hf r
    · rw [if_neg h]

/-! ### Lookup -/

theorem find?_eq_some_iff {t : Table ρ} {k : κ} {r : ρ} :
    t.find? k = some r ↔ r ∈ t.rows ∧ Keyed.key r = k := by
  constructor
  · intro h
    exact ⟨List.mem_of_find?_eq_some h, by simpa using List.find?_some h⟩
  · rintro ⟨hr, rfl⟩
    rcases t with ⟨rows, hn⟩
    induction rows with
    | nil => cases hr
    | cons x xs ih =>
      rw [List.map_cons, List.nodup_cons] at hn
      rcases List.mem_cons.mp hr with rfl | hxs
      · simp [find?]
      · have hne : Keyed.key x ≠ Keyed.key r := fun h => hn.1 (h ▸ List.mem_map_of_mem hxs)
        simpa [find?, List.find?_cons, hne] using ih hn.2 hxs

theorem mem_of_find? {t : Table ρ} {k : κ} {r : ρ} (h : t.find? k = some r) : r ∈ t.rows :=
  (find?_eq_some_iff.mp h).1

theorem key_of_find? {t : Table ρ} {k : κ} {r : ρ} (h : t.find? k = some r) : Keyed.key r = k :=
  (find?_eq_some_iff.mp h).2

theorem find?_of_mem {t : Table ρ} {r : ρ} (h : r ∈ t.rows) : t.find? (Keyed.key r) = some r :=
  find?_eq_some_iff.mpr ⟨h, rfl⟩

theorem find?_eq_none_iff {t : Table ρ} {k : κ} :
    t.find? k = none ↔ ∀ r ∈ t.rows, Keyed.key r ≠ k := by
  simp [find?, List.find?_eq_none]

/-- Two rows of a table with the same key are the same row. -/
theorem eq_of_key_eq {t : Table ρ} {r r' : ρ} (hr : r ∈ t.rows) (hr' : r' ∈ t.rows)
    (h : Keyed.key r = Keyed.key r') : r = r' := by
  have h₁ := find?_of_mem hr
  rw [h, find?_of_mem hr'] at h₁
  exact (Option.some.inj h₁).symm

theorem find?_modify (t : Table ρ) (k k' : κ) (f : ρ → ρ)
    (hf : ∀ r, Keyed.key (f r) = Keyed.key r) :
    (t.modify k f hf).find? k' = if k' = k then (t.find? k).map f else t.find? k' := by
  rcases t with ⟨rows, hn⟩
  simp only [modify, mapRows, find?]
  clear hn
  induction rows with
  | nil => split <;> rfl
  | cons x xs ih =>
    by_cases hx : Keyed.key x = k
    · by_cases hk : k' = k
      · simp [hx, hk, hf]
      · have hx' : Keyed.key x ≠ k' := fun h => hk (h ▸ hx)
        simpa [List.find?_cons, hx, hf, hk, hx', Ne.symm hk] using ih
    · by_cases hk : k' = k
      · subst hk
        simpa [List.find?_cons, hx] using ih
      · by_cases hx' : Keyed.key x = k'
        · simp [hx', hk]
        · simpa [List.find?_cons, hx, hk, hx'] using ih

theorem find?_modify_self (t : Table ρ) (k : κ) (f : ρ → ρ)
    (hf : ∀ r, Keyed.key (f r) = Keyed.key r) :
    (t.modify k f hf).find? k = (t.find? k).map f := by
  rw [find?_modify, if_pos rfl]

theorem find?_modify_of_ne (t : Table ρ) {k k' : κ} (f : ρ → ρ)
    (hf : ∀ r, Keyed.key (f r) = Keyed.key r) (h : k' ≠ k) :
    (t.modify k f hf).find? k' = t.find? k' := by
  rw [find?_modify, if_neg h]

/-- An update neither adds nor drops a key. -/
theorem find?_modify_eq_none {t : Table ρ} {k k' : κ} {f : ρ → ρ}
    {hf : ∀ r, Keyed.key (f r) = Keyed.key r} :
    (t.modify k f hf).find? k' = none ↔ t.find? k' = none := by
  rw [find?_modify]
  split
  · rename_i hk
    rw [Option.map_eq_none_iff, hk]
  · exact Iff.rfl

/-- Updating a key no row has leaves the table as it is. -/
theorem modify_of_find?_none {t : Table ρ} {k : κ} (f : ρ → ρ)
    (hf : ∀ r, Keyed.key (f r) = Keyed.key r) (h : t.find? k = none) : t.modify k f hf = t := by
  apply ext
  simp only [modify, mapRows]
  conv_rhs => rw [← List.map_id t.rows]
  apply List.map_congr_left
  intro r hr
  rw [if_neg (find?_eq_none_iff.mp h r hr), id]

/-- Only what the update does to the row it finds matters. -/
theorem modify_congr {t : Table ρ} {k : κ} {r : ρ} {f g : ρ → ρ}
    {hf : ∀ r, Keyed.key (f r) = Keyed.key r} {hg : ∀ r, Keyed.key (g r) = Keyed.key r}
    (h : t.find? k = some r) (hfg : f r = g r) : t.modify k f hf = t.modify k g hg := by
  obtain ⟨hr, hk⟩ := find?_eq_some_iff.mp h
  apply ext
  simp only [modify, mapRows]
  apply List.map_congr_left
  intro r' hr'
  by_cases hk' : Keyed.key r' = k
  · rw [if_pos hk', if_pos hk', eq_of_key_eq hr' hr (hk'.trans hk.symm), hfg]
  · rw [if_neg hk', if_neg hk']

/-- An update that writes what is there. -/
theorem modify_of_eq {t : Table ρ} {k : κ} {r : ρ} {f : ρ → ρ}
    {hf : ∀ r, Keyed.key (f r) = Keyed.key r} (h : t.find? k = some r) (hfr : f r = r) :
    t.modify k f hf = t := by
  obtain ⟨hr, hk⟩ := find?_eq_some_iff.mp h
  apply ext
  simp only [modify, mapRows]
  conv_rhs => rw [← List.map_id t.rows]
  apply List.map_congr_left
  intro r' hr'
  by_cases hk' : Keyed.key r' = k
  · rw [if_pos hk', eq_of_key_eq hr' hr (hk'.trans hk.symm), hfr, id]
  · rw [if_neg hk', id]

/-- Two updates of one row are one. -/
theorem modify_twice {t : Table ρ} {k : κ} {f g : ρ → ρ}
    {hf : ∀ r, Keyed.key (f r) = Keyed.key r} {hg : ∀ r, Keyed.key (g r) = Keyed.key r} :
    (t.modify k f hf).modify k g hg = t.modify k (fun r => g (f r)) fun r => (hg _).trans (hf r) := by
  apply ext
  simp only [modify, mapRows, List.map_map]
  apply List.map_congr_left
  intro r _
  simp only [Function.comp_apply]
  by_cases hk : Keyed.key r = k
  · rw [if_pos hk, if_pos ((hf r).trans hk), if_pos hk]
  · rw [if_neg hk, if_neg hk, if_neg hk]

/-- Updates of different rows can be made in either order. -/
theorem modify_comm {t : Table ρ} {k k' : κ} {f g : ρ → ρ}
    {hf : ∀ r, Keyed.key (f r) = Keyed.key r} {hg : ∀ r, Keyed.key (g r) = Keyed.key r}
    (h : k ≠ k' ∨ ∀ r, g (f r) = f (g r)) :
    (t.modify k f hf).modify k' g hg = (t.modify k' g hg).modify k f hf := by
  apply ext
  simp only [modify, mapRows, List.map_map]
  apply List.map_congr_left
  intro r _
  simp only [Function.comp_apply]
  by_cases hk : Keyed.key r = k <;> by_cases hk' : Keyed.key r = k'
  · rcases h with hne | hcomm
    · exact absurd (hk.symm.trans hk') hne
    · rw [if_pos hk, if_pos hk', hf, hg, if_pos hk, if_pos hk', hcomm]
  · rw [if_pos hk, if_neg hk', hf, if_neg hk', if_pos hk]
  · rw [if_neg hk, if_pos hk', hg, if_neg hk]
  · rw [if_neg hk, if_neg hk', if_neg hk]

theorem mem_modify {t : Table ρ} {k : κ} {f : ρ → ρ}
    {hf : ∀ r, Keyed.key (f r) = Keyed.key r} {r : ρ} :
    r ∈ (t.modify k f hf).rows ↔
      (∃ r₀ ∈ t.rows, Keyed.key r₀ = k ∧ f r₀ = r) ∨ (r ∈ t.rows ∧ Keyed.key r ≠ k) := by
  simp only [modify, mapRows, List.mem_map]
  constructor
  · rintro ⟨r₀, hr₀, h⟩
    by_cases hk : Keyed.key r₀ = k
    · rw [if_pos hk] at h
      exact .inl ⟨r₀, hr₀, hk, h⟩
    · rw [if_neg hk] at h
      exact .inr (h ▸ ⟨hr₀, hk⟩)
  · rintro (⟨r₀, hr₀, hk, h⟩ | ⟨hr, hk⟩)
    · exact ⟨r₀, hr₀, by rw [if_pos hk, h]⟩
    · exact ⟨r, hr, by rw [if_neg hk]⟩

theorem insert_eq_some_iff {t t' : Table ρ} {r : ρ} :
    t.insert r = some t' ↔ t.find? (Keyed.key r) = none ∧ t'.rows = t.rows ++ [r] := by
  rw [find?_eq_none_iff, insert]
  constructor
  · intro h
    split at h
    · cases h
    · rename_i hm
      cases h
      exact ⟨fun r' hr' he => hm (he ▸ List.mem_map_of_mem hr'), rfl⟩
  · rintro ⟨hn, hr⟩
    rw [dif_neg (fun hm => by
      obtain ⟨r', hr', he⟩ := List.mem_map.mp hm
      exact hn r' hr' he)]
    exact congrArg some (ext hr.symm)

theorem insert_eq_none_iff {t : Table ρ} {r : ρ} :
    t.insert r = none ↔ ∃ r', t.find? (Keyed.key r) = some r' := by
  constructor
  · intro h
    cases hf : t.find? (Keyed.key r) with
    | some r' => exact ⟨r', rfl⟩
    | none =>
      unfold insert at h
      split at h
      · rename_i hm
        obtain ⟨r', hr', he⟩ := List.mem_map.mp hm
        exact absurd he (find?_eq_none_iff.mp hf r' hr')
      · cases h
  · rintro ⟨r', hr'⟩
    cases hi : t.insert r with
    | none => rfl
    | some t' =>
      rw [(insert_eq_some_iff.mp hi).1] at hr'
      cases hr'

theorem find?_insert {t t' : Table ρ} {r : ρ} (h : t.insert r = some t') (k : κ) :
    t'.find? k = if k = Keyed.key r then some r else t.find? k := by
  obtain ⟨hn, hr⟩ := insert_eq_some_iff.mp h
  simp only [find?, hr, List.find?_append, List.find?_singleton]
  by_cases hk : k = Keyed.key r
  · subst hk
    have : t.rows.find? (fun r' => decide (Keyed.key r' = Keyed.key r)) = none := hn
    simp [this]
  · simp [hk, Ne.symm hk]

theorem find?_insert_self {t t' : Table ρ} {r : ρ} (h : t.insert r = some t') :
    t'.find? (Keyed.key r) = some r := by rw [find?_insert h, if_pos rfl]

/-- An insert disturbs no row that was there. -/
theorem find?_insert_of_some {t t' : Table ρ} {r r₀ : ρ} {k : κ} (h : t.insert r = some t')
    (hk : t.find? k = some r₀) : t'.find? k = some r₀ := by
  rw [find?_insert h, if_neg, hk]
  rintro rfl
  rw [(insert_eq_some_iff.mp h).1] at hk
  cases hk

theorem mem_insert {t t' : Table ρ} {r r' : ρ} (h : t.insert r = some t') :
    r' ∈ t'.rows ↔ r' ∈ t.rows ∨ r' = r := by
  rw [(insert_eq_some_iff.mp h).2, List.mem_append, List.mem_singleton]

/-- A rewrite of the last row leaves the others as they are. -/
theorem rows_modify_last {t : Table ρ} {rows : List ρ} {r : ρ} {f : ρ → ρ}
    {hf : ∀ r, Keyed.key (f r) = Keyed.key r} (h : t.rows = rows ++ [r]) :
    (t.modify (Keyed.key r) f hf).rows = rows ++ [f r] := by
  have hnodup := t.nodup
  rw [h, List.map_append, List.nodup_append] at hnodup
  have hne : ∀ r' ∈ rows, Keyed.key r' ≠ Keyed.key r := fun r' hr' =>
    hnodup.2.2 _ (List.mem_map_of_mem hr') _ List.mem_cons_self
  show t.rows.map (fun r' => if Keyed.key r' = Keyed.key r then f r' else r') = _
  rw [h, List.map_append, List.map_singleton, if_pos rfl]
  congr 1
  refine (List.map_congr_left fun r' hr' => ?_).trans (List.map_id rows)
  rw [if_neg (hne r' hr')]
  rfl

/-! ### Views -/

section Views

variable {σ : Type*} [Keyed σ κ] {g : ρ → σ} (hg : ∀ r, Keyed.key (g r) = Keyed.key r)

theorem find?_mapRows (t : Table ρ) (k : κ) : (t.mapRows g hg).find? k = (t.find? k).map g := by
  rcases t with ⟨rows, hn⟩
  simp only [mapRows, find?, List.find?_map]
  congr 2
  funext r
  simp [hg]

/-- An update seen through a view is an update of the view. -/
theorem mapRows_modify (t : Table ρ) (k : κ) (f : ρ → ρ)
    (hf : ∀ r, Keyed.key (f r) = Keyed.key r) (f' : σ → σ)
    (hf' : ∀ r, Keyed.key (f' r) = Keyed.key r) (h : ∀ r, g (f r) = f' (g r)) :
    (t.modify k f hf).mapRows g hg = (t.mapRows g hg).modify k f' hf' := by
  apply ext
  simp only [modify, mapRows, List.map_map]
  apply List.map_congr_left
  intro r _
  by_cases hk : Keyed.key r = k
  · simp [hk, hg, h]
  · simp [hk, hg]

/-- An update the view does not show. -/
theorem mapRows_modify_of_eq (t : Table ρ) (k : κ) (f : ρ → ρ)
    (hf : ∀ r, Keyed.key (f r) = Keyed.key r) (h : ∀ r, g (f r) = g r) :
    (t.modify k f hf).mapRows g hg = t.mapRows g hg := by
  apply ext
  simp only [modify, mapRows, List.map_map]
  apply List.map_congr_left
  intro r _
  by_cases hk : Keyed.key r = k
  · simp [hk, h]
  · simp [hk]

theorem mapRows_insert {t t' : Table ρ} {r : ρ} (h : t.insert r = some t') :
    (t.mapRows g hg).insert (g r) = some (t'.mapRows g hg) := by
  obtain ⟨hn, hr⟩ := insert_eq_some_iff.mp h
  rw [insert_eq_some_iff, find?_mapRows, hg, hn]
  exact ⟨rfl, by simp [mapRows, hr]⟩

end Views

/-! ### Tables with related rows -/

section Related

variable {σ : Type*} [Keyed σ κ] {R : ρ → σ → Prop} {t : Table ρ} {t' : Table σ}

/-- Where rows that are related have the same key, a key finds related rows. -/
theorem find?_rel (hkey : ∀ r r', R r r' → Keyed.key r' = Keyed.key r)
    (h : List.Forall₂ R t.rows t'.rows) (k : κ) : Option.Rel R (t.find? k) (t'.find? k) := by
  rcases t with ⟨rows, hn⟩
  rcases t' with ⟨rows', hn'⟩
  simp only [find?] at h ⊢
  clear hn hn'
  induction h with
  | nil => exact .none
  | cons hr _ ih =>
    rw [List.find?_cons, List.find?_cons, hkey _ _ hr]
    split
    · exact .some hr
    · exact ih

/-- The same update of two tables. -/
theorem modify_rel (hkey : ∀ r r', R r r' → Keyed.key r' = Keyed.key r)
    (h : List.Forall₂ R t.rows t'.rows) (k : κ) {f : ρ → ρ} {g : σ → σ}
    {hf : ∀ r, Keyed.key (f r) = Keyed.key r} {hg : ∀ r, Keyed.key (g r) = Keyed.key r}
    (hfg : ∀ r r', R r r' → R (f r) (g r')) :
    List.Forall₂ R (t.modify k f hf).rows (t'.modify k g hg).rows := by
  show List.Forall₂ R (t.rows.map _) (t'.rows.map _)
  rw [List.forall₂_map_left_iff, List.forall₂_map_right_iff]
  refine h.imp fun r r' hr => ?_
  rw [hkey r r' hr]
  split
  · exact hfg r r' hr
  · exact hr

end Related

/-! ### Sums over the rows -/

section Sums

variable {M : Type*}

/-- The sum of a weight over all rows. -/
def sum [AddMonoid M] (t : Table ρ) (w : ρ → M) : M := (t.rows.map w).sum

omit [DecidableEq κ] in
theorem sum_congr [AddMonoid M] {t : Table ρ} {w w' : ρ → M} (h : ∀ r ∈ t.rows, w r = w' r) :
    t.sum w = t.sum w' := by
  rw [sum, sum, List.map_congr_left h]

omit [DecidableEq κ] in
theorem sum_eq_zero [AddMonoid M] {t : Table ρ} {w : ρ → M} (h : ∀ r ∈ t.rows, w r = 0) :
    t.sum w = 0 := by
  apply List.sum_eq_zero
  intro x hx
  obtain ⟨r, hr, rfl⟩ := List.mem_map.mp hx
  exact h r hr

theorem sum_insert [AddMonoid M] {t t' : Table ρ} {r : ρ} (h : t.insert r = some t')
    (w : ρ → M) : t'.sum w = t.sum w + w r := by
  simp [sum, (insert_eq_some_iff.mp h).2]

omit [DecidableEq κ] in
theorem sum_mapRows [AddMonoid M] {σ : Type*} [Keyed σ κ] (t : Table ρ) (f : ρ → σ)
    (hf : ∀ r, Keyed.key (f r) = Keyed.key r) (w : σ → M) :
    (t.mapRows f hf).sum w = t.sum (w ∘ f) := by
  simp [sum, mapRows]

/-- **One row written.**  The sum moves by the new weight minus the old weight of that row. -/
theorem sum_modify [AddCommGroup M] {t : Table ρ} {k : κ} {r : ρ} (h : t.find? k = some r)
    (f : ρ → ρ) (hf : ∀ r, Keyed.key (f r) = Keyed.key r) (w : ρ → M) :
    (t.modify k f hf).sum w = t.sum w - w r + w (f r) := by
  obtain ⟨hr, rfl⟩ := find?_eq_some_iff.mp h
  rcases t with ⟨rows, hn⟩
  simp only [modify, mapRows, sum] at hr ⊢
  clear h
  induction rows with
  | nil => cases hr
  | cons x xs ih =>
    rw [List.map_cons, List.nodup_cons] at hn
    rcases List.mem_cons.mp hr with rfl | hxs
    · have hrest : xs.map (fun y => if Keyed.key y = Keyed.key r then f y else y) = xs := by
        conv_rhs => rw [← List.map_id xs]
        apply List.map_congr_left
        intro y hy
        have hne : Keyed.key y ≠ Keyed.key r := by
          intro he
          exact hn.1 (he ▸ List.mem_map_of_mem hy)
        rw [if_neg hne, id]
      simp only [List.map_cons, if_true, hrest, List.sum_cons]
      abel
    · have hne : Keyed.key x ≠ Keyed.key r := by
        intro he
        exact hn.1 (he ▸ List.mem_map_of_mem hxs)
      simp only [List.map_cons, if_neg hne, List.sum_cons, ih hn.2 hxs]
      abel

omit [DecidableEq κ] in
theorem sum_nonneg [AddCommMonoid M] [PartialOrder M] [IsOrderedAddMonoid M] {t : Table ρ}
    {w : ρ → M} (h : ∀ r ∈ t.rows, 0 ≤ w r) : 0 ≤ t.sum w := by
  apply List.sum_nonneg
  intro x hx
  obtain ⟨r, hr, rfl⟩ := List.mem_map.mp hx
  exact h r hr

omit [DecidableEq κ] in
/-- One row weighs at most as much as the whole table, when no row weighs less than zero. -/
theorem le_sum [AddCommMonoid M] [PartialOrder M] [IsOrderedAddMonoid M] {t : Table ρ}
    {w : ρ → M} (h : ∀ r ∈ t.rows, 0 ≤ w r) {r : ρ} (hr : r ∈ t.rows) : w r ≤ t.sum w := by
  apply List.single_le_sum
  · intro x hx
    obtain ⟨r', hr', rfl⟩ := List.mem_map.mp hx
    exact h r' hr'
  · exact List.mem_map_of_mem hr

end Sums

end Table

end MandatePlane.KeyedTable

import MandatePlane.KeyedTable

/-!
# Foreign keys

A column of one table refers to another table if every key in it is stored there.  A key once
stored stays stored under inserts and under changes that keep the keys, so that a reference is
broken by none of them, and a new row has to be checked only for itself.
-/

namespace MandatePlane.ForeignKeys

open KeyedTable

section Stored

variable {ρ σ κ : Type} [DecidableEq κ] [Keyed ρ κ] [Keyed σ κ] {t t' : Table ρ} {k : κ}

/-- There is a row with this key. -/
def Stored (t : Table ρ) (k : κ) : Prop := ∃ r, t.find? k = some r

theorem stored_of_mem {r : ρ} (h : r ∈ t.rows) : Stored t (Keyed.key r) :=
  ⟨r, Table.find?_of_mem h⟩

theorem Stored.insert (h : Stored t k) {r : ρ} (hi : t.insert r = some t') : Stored t' k := by
  obtain ⟨row, hrow⟩ := h
  exact ⟨row, Table.find?_insert_of_some hi hrow⟩

theorem stored_modify {k' : κ} {f : ρ → ρ} {hf : ∀ r, Keyed.key (f r) = Keyed.key r} :
    Stored (t.modify k' f hf) k ↔ Stored t k := by
  unfold Stored
  rw [← Option.ne_none_iff_exists', ← Option.ne_none_iff_exists', ne_eq, ne_eq,
    Table.find?_modify_eq_none]

theorem stored_mapRows {g : ρ → σ} {hg : ∀ r, Keyed.key (g r) = Keyed.key r} :
    Stored (t.mapRows g hg) k ↔ Stored t k := by
  unfold Stored
  rw [Table.find?_mapRows]
  constructor
  · rintro ⟨r, hr⟩
    obtain ⟨row, hrow, -⟩ := Option.map_eq_some_iff.mp hr
    exact ⟨row, hrow⟩
  · rintro ⟨row, hrow⟩
    exact ⟨g row, by rw [hrow]; rfl⟩

end Stored

/-! ### References -/

section References

variable {ρ σ τ κ ι : Type} [DecidableEq κ] [Keyed ρ ι] [Keyed τ ι] [Keyed σ κ]
  {t t' : Table ρ} {u u' : Table σ} {column : ρ → Option κ}

/-- **The column refers to the table**: every key in it is stored there. -/
def Refers (t : Table ρ) (column : ρ → Option κ) (u : Table σ) : Prop :=
  ∀ r ∈ t.rows, ∀ k, column r = some k → Stored u k

theorem refers_of_empty (h : t.rows = []) : Refers t column u := by
  intro r hr
  rw [h] at hr
  exact absurd hr List.not_mem_nil

/-- A table that loses no key keeps what refers to it. -/
theorem Refers.mono (h : Refers t column u) (hkeys : ∀ k, Stored u k → Stored u' k) :
    Refers t column u' := fun r hr k hk => hkeys k (h r hr k hk)

/-- A new row is checked for itself. -/
theorem Refers.insert [DecidableEq ι] (h : Refers t column u) {r : ρ} (hi : t.insert r = some t')
    (hnew : ∀ k, column r = some k → Stored u k) : Refers t' column u := by
  intro row hrow k hk
  rcases (Table.mem_insert hi).mp hrow with hold | rfl
  · exact h row hold k hk
  · exact hnew k hk

/-- Only the column matters. -/
theorem refers_mapRows {g : ρ → τ} {hg : ∀ r, Keyed.key (g r) = Keyed.key r}
    {column' : τ → Option κ} (h : ∀ r, column' (g r) = column r) :
    Refers (t.mapRows g hg) column' u ↔ Refers t column u := by
  constructor
  · intro href r hr k hk
    exact href (g r) (List.mem_map_of_mem hr) k (by rw [h, hk])
  · intro href r hr k hk
    obtain ⟨row, hrow, rfl⟩ := List.mem_map.mp hr
    exact href row hrow k (by rw [← h, hk])

end References

end MandatePlane.ForeignKeys

import Mathlib.Data.List.Basic

/-!
# Replaying a journal

A journal is a list of entries, each about one subject or about none.  Replaying the
entries of a subject in order gives what the journal says of it; a view gives what is
stored.  The journal tells the view if it says of every stored subject what is stored.

A change of what is stored and the entries made for it are kept apart in a `Move`: one
function for the stored value, one for the replayed one.  Moves of a subject compose,
and a view that was told is told after the move exactly if the two functions agree on
what was stored.
-/

namespace MandatePlane.JournalReplay

universe u v w

/-- How entries `ε` are read: whom they are about, and what they make of what was known. -/
structure Reading (κ : Type u) (ε : Type v) (ν : Type w) where
  subject : ε → Option κ
  enter : ε → Option ν → Option ν

variable {κ : Type u} {ε : Type v} {ν : Type w} [DecidableEq κ]

namespace Reading

/-- What the entries say of a subject. -/
def replay (R : Reading κ ε ν) (es : List ε) (k : κ) : Option ν :=
  (es.filter fun e => R.subject e = some k).foldl (fun known e => R.enter e known) none

/-- **The journal tells the view.** -/
def Tells (R : Reading κ ε ν) (es : List ε) (view : κ → Option ν) : Prop :=
  ∀ k value, view k = some value → R.replay es k = some value

variable {R : Reading κ ε ν} {es : List ε} {e : ε} {k k' : κ}

theorem replay_snoc_self (h : R.subject e = some k) :
    R.replay (es ++ [e]) k = R.enter e (R.replay es k) := by
  unfold replay
  rw [List.filter_append, List.filter_cons_of_pos (by simpa using h), List.filter_nil,
    List.foldl_append]
  rfl

theorem replay_snoc_of_ne (h : R.subject e ≠ some k) :
    R.replay (es ++ [e]) k = R.replay es k := by
  unfold replay
  rw [List.filter_append, List.filter_cons_of_neg (by simpa using h), List.filter_nil,
    List.append_nil]

/-- One subject's stored value changes by `stored`, what the journal says of it by `told`. -/
structure Move (R : Reading κ ε ν) (k : κ) (stored told : ν → ν) (view view' : κ → Option ν)
    (es es' : List ε) : Prop where
  stored : view' k = (view k).map stored
  elsewhere : ∀ k', k' ≠ k → view' k' = view k'
  told : ∀ value, R.replay es k = some value → R.replay es' k = some (told value)
  untold : ∀ k', k' ≠ k → R.replay es' k' = R.replay es k'

namespace Move

variable {f f' g g' : ν → ν} {view view' view'' : κ → Option ν} {es' es'' : List ε}

theorem refl (R : Reading κ ε ν) (k : κ) (view : κ → Option ν) (es : List ε) :
    R.Move k id id view view es es :=
  ⟨(Option.map_id_apply (x := view k)).symm, fun _ _ => rfl, fun _ h => h, fun _ _ => rfl⟩

/-- Two moves of one subject. -/
theorem trans (h : R.Move k f g view view' es es') (h' : R.Move k f' g' view' view'' es' es'') :
    R.Move k (f' ∘ f) (g' ∘ g) view view'' es es'' := by
  refine ⟨?_, fun k' hk => ?_, fun value hv => ?_, fun k' hk => ?_⟩
  · rw [h'.stored, h.stored, Option.map_map]
  · rw [h'.elsewhere k' hk, h.elsewhere k' hk]
  · exact h'.told _ (h.told value hv)
  · rw [h'.untold k' hk, h.untold k' hk]

/-- An entry about the subject. -/
theorem snoc (h : R.Move k f g view view' es es') (hsubject : R.subject e = some k)
    (henter : ∀ value, R.enter e (some value) = some (g' value)) :
    R.Move k f (g' ∘ g) view view' es (es' ++ [e]) := by
  refine ⟨h.stored, h.elsewhere, fun value hv => ?_, fun k' hk => ?_⟩
  · rw [replay_snoc_self hsubject, h.told value hv, henter]
    rfl
  · have hne : R.subject e ≠ some k' := by
      rw [hsubject]
      intro heq
      exact hk (Option.some.inj heq).symm
    rw [replay_snoc_of_ne hne, h.untold k' hk]

/-- An entry about no subject. -/
theorem aside (h : R.Move k f g view view' es es') (hsubject : R.subject e = none) :
    R.Move k f g view view' es (es' ++ [e]) := by
  have hne (k' : κ) : R.subject e ≠ some k' := by
    rw [hsubject]
    intro heq
    cases heq
  refine ⟨h.stored, h.elsewhere, fun value hv => ?_, fun k' hk => ?_⟩
  · rw [replay_snoc_of_ne (hne k), h.told value hv]
  · rw [replay_snoc_of_ne (hne k'), h.untold k' hk]

/-- **A told view is still told** after a move exactly if the entries made for the stored value what
became of it. -/
theorem tells_iff (h : R.Move k f g view view' es es') (ht : R.Tells es view) :
    R.Tells es' view' ↔ ∀ value, view k = some value → g value = f value := by
  constructor
  · intro ht' value hv
    have hstored : view' k = some (f value) := by rw [h.stored, hv, Option.map_some]
    have htold := h.told value (ht k value hv)
    rw [ht' k _ hstored] at htold
    exact (Option.some.inj htold).symm
  · intro hagree k' value' hv'
    by_cases hk : k' = k
    · subst hk
      rw [h.stored] at hv'
      obtain ⟨value, hv, rfl⟩ := Option.map_eq_some_iff.mp hv'
      rw [h.told value (ht k' value hv), hagree value hv]
    · rw [h.elsewhere k' hk] at hv'
      rw [h.untold k' hk]
      exact ht k' value' hv'

end Move

/-- A subject that is stored anew, with an entry that says so whatever was known before. -/
theorem Tells.start {view view' : κ → Option ν} {value : ν} (ht : R.Tells es view)
    (hstored : view' k = some value) (helsewhere : ∀ k', k' ≠ k → view' k' = view k')
    (hsubject : R.subject e = some k) (henter : ∀ known, R.enter e known = some value) :
    R.Tells (es ++ [e]) view' := by
  intro k' value' hv'
  by_cases hk : k' = k
  · subst hk
    rw [hstored] at hv'
    rw [replay_snoc_self hsubject, henter, hv']
  · have hne : R.subject e ≠ some k' := by
      rw [hsubject]
      intro heq
      exact hk (Option.some.inj heq).symm
    rw [replay_snoc_of_ne hne]
    exact ht k' value' (helsewhere k' hk ▸ hv')

end Reading

end MandatePlane.JournalReplay

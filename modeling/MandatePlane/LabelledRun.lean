import Mathlib.Data.List.Basic

/-!
# Runs of a deterministic machine that logs what it does

A machine takes actions; every action moves the state and emits a finite log.  A
property of runs is either a property of all states on the way (`Throughout`), of
all steps as they are taken (`Along`), or of all emitted labels (`Emitted`).

The rules below turn one fact about a single step into the fact about every run:
an invariant that survives the steps meeting a side condition survives every run
whose steps all meet it.
-/

namespace MandatePlane.LabelledRun

universe u v w

/-- A deterministic machine: actions `α` move states `σ` and emit labels `ε`. -/
structure Machine (σ : Type u) (α : Type v) (ε : Type w) where
  next : σ → α → σ
  log : σ → α → List ε

variable {σ : Type u} {α : Type v} {ε : Type w} (M : Machine σ α ε)

namespace Machine

/-- The state after a list of actions. -/
def run (s : σ) (as : List α) : σ := as.foldl M.next s

/-- Everything a list of actions emits, in order. -/
def trace (s : σ) : List α → List ε
  | [] => []
  | a :: as => M.log s a ++ trace (M.next s a) as

/-- Every step of the run satisfies `P` in the state in which it is taken. -/
def Along (P : σ → α → Prop) (s : σ) : List α → Prop
  | [] => True
  | a :: as => P s a ∧ Along P (M.next s a) as

/-- Every state of the run, the first and the last included, satisfies `Q`. -/
def Throughout (Q : σ → Prop) (s : σ) : List α → Prop
  | [] => Q s
  | a :: as => Q s ∧ Throughout Q (M.next s a) as

variable {M}

@[simp] theorem run_nil (s : σ) : M.run s [] = s := rfl

@[simp] theorem run_cons (s : σ) (a : α) (as : List α) :
    M.run s (a :: as) = M.run (M.next s a) as := rfl

theorem run_append (s : σ) (as bs : List α) : M.run s (as ++ bs) = M.run (M.run s as) bs :=
  List.foldl_append

@[simp] theorem trace_nil (s : σ) : M.trace s [] = [] := rfl

@[simp] theorem trace_cons (s : σ) (a : α) (as : List α) :
    M.trace s (a :: as) = M.log s a ++ M.trace (M.next s a) as := rfl

theorem trace_append (s : σ) (as bs : List α) :
    M.trace s (as ++ bs) = M.trace s as ++ M.trace (M.run s as) bs := by
  induction as generalizing s with
  | nil => rfl
  | cons a as ih => rw [List.cons_append, trace_cons, trace_cons, ih, run_cons, List.append_assoc]

instance {P : σ → α → Prop} [∀ s a, Decidable (P s a)] :
    ∀ (s : σ) (as : List α), Decidable (M.Along P s as)
  | _, [] => .isTrue trivial
  | s, a :: as =>
    let _ : Decidable (M.Along P (M.next s a) as) := instDecidableAlong (M.next s a) as
    inferInstanceAs (Decidable (P s a ∧ M.Along P (M.next s a) as))

instance {Q : σ → Prop} [∀ s, Decidable (Q s)] :
    ∀ (s : σ) (as : List α), Decidable (M.Throughout Q s as)
  | s, [] => inferInstanceAs (Decidable (Q s))
  | s, a :: as =>
    let _ : Decidable (M.Throughout Q (M.next s a) as) := instDecidableThroughout (M.next s a) as
    inferInstanceAs (Decidable (Q s ∧ M.Throughout Q (M.next s a) as))

theorem along_append {P : σ → α → Prop} {s : σ} {as bs : List α} :
    M.Along P s (as ++ bs) ↔ M.Along P s as ∧ M.Along P (M.run s as) bs := by
  induction as generalizing s with
  | nil => simp [Along]
  | cons a as ih => simp only [List.cons_append, Along, ih, run_cons, and_assoc]

theorem along_mono {P Q : σ → α → Prop} (h : ∀ s a, P s a → Q s a) {s : σ} {as : List α}
    (hp : M.Along P s as) : M.Along Q s as := by
  induction as generalizing s with
  | nil => trivial
  | cons a as ih => exact ⟨h s a hp.1, ih hp.2⟩

theorem along_and {P Q : σ → α → Prop} {s : σ} {as : List α} (hp : M.Along P s as)
    (hq : M.Along Q s as) : M.Along (fun s a => P s a ∧ Q s a) s as := by
  induction as generalizing s with
  | nil => trivial
  | cons a as ih => exact ⟨⟨hp.1, hq.1⟩, ih hp.2 hq.2⟩

theorem exists_of_along {P : σ → α → Prop} {s : σ} {as : List α} (hp : M.Along P s as) {a : α}
    (ha : a ∈ as) : ∃ s', P s' a := by
  induction as generalizing s with
  | nil => cases ha
  | cons b as ih =>
    rcases List.mem_cons.mp ha with rfl | ha
    · exact ⟨s, hp.1⟩
    · exact ih hp.2 ha

/-- What every action of a list satisfies in whatever state it is taken. -/
theorem along_of_forall {P : σ → α → Prop} {as : List α} (h : ∀ a ∈ as, ∀ s, P s a) {s : σ} :
    M.Along P s as := by
  induction as generalizing s with
  | nil => trivial
  | cons a as ih =>
    exact ⟨h a List.mem_cons_self s, ih fun b hb => h b (List.mem_cons_of_mem _ hb)⟩

/-! ### Invariants -/

/-- **The invariant rule.**  What every step meeting `P` preserves, every run of such steps does. -/
theorem inv_run {P : σ → α → Prop} {I : σ → Prop} (hstep : ∀ s a, I s → P s a → I (M.next s a))
    {s : σ} {as : List α} (hs : I s) (hp : M.Along P s as) : I (M.run s as) := by
  induction as generalizing s with
  | nil => exact hs
  | cons a as ih => exact ih (hstep s a hs hp.1) hp.2

theorem throughout_of_inv {P : σ → α → Prop} {I : σ → Prop}
    (hstep : ∀ s a, I s → P s a → I (M.next s a)) {s : σ} {as : List α} (hs : I s)
    (hp : M.Along P s as) : M.Throughout I s as := by
  induction as generalizing s with
  | nil => exact hs
  | cons a as ih => exact ⟨hs, ih (hstep s a hs hp.1) hp.2⟩

/-- What every step preserves holds throughout every run. -/
theorem throughout_of_step {I : σ → Prop} (hstep : ∀ s a, I s → I (M.next s a)) {s : σ}
    (hs : I s) (as : List α) : M.Throughout I s as := by
  induction as generalizing s with
  | nil => exact hs
  | cons a as ih => exact ⟨hs, ih (hstep s a hs)⟩

/-- What holds throughout a run holds at its start. -/
theorem throughout_head {Q : σ → Prop} {s : σ} {as : List α} (h : M.Throughout Q s as) : Q s := by
  cases as with
  | nil => exact h
  | cons a as => exact h.1

theorem throughout_mono {Q R : σ → Prop} (h : ∀ s, Q s → R s) {s : σ} {as : List α}
    (hq : M.Throughout Q s as) : M.Throughout R s as := by
  induction as generalizing s with
  | nil => exact h s hq
  | cons a as ih => exact ⟨h s hq.1, ih hq.2⟩

/-- What holds throughout a run holds where each of its steps is taken. -/
theorem along_of_throughout {Q : σ → Prop} {s : σ} {as : List α} (h : M.Throughout Q s as) :
    M.Along (fun s _ => Q s) s as := by
  induction as generalizing s with
  | nil => trivial
  | cons a as ih => exact ⟨h.1, ih h.2⟩

/-- Holding throughout a run is holding after each of its initial segments. -/
theorem throughout_iff {Q : σ → Prop} {s : σ} {as : List α} :
    M.Throughout Q s as ↔ ∀ bs, bs <+: as → Q (M.run s bs) := by
  induction as generalizing s with
  | nil => simp [Throughout]
  | cons a as ih =>
    simp only [Throughout, ih]
    constructor
    · rintro ⟨h₀, h⟩ bs hbs
      cases bs with
      | nil => exact h₀
      | cons b bs =>
        obtain ⟨rfl, htail⟩ := List.cons_prefix_cons.mp hbs
        exact h bs htail
    · intro h
      refine ⟨h [] List.nil_prefix, fun bs hbs => h (a :: bs) ?_⟩
      exact List.cons_prefix_cons.mpr ⟨rfl, hbs⟩

/-- A step property that follows from an invariant holds along every run that keeps it. -/
theorem along_of_inv {P Q : σ → α → Prop} {I : σ → Prop}
    (hstep : ∀ s a, I s → P s a → I (M.next s a)) (hq : ∀ s a, I s → P s a → Q s a)
    {s : σ} {as : List α} (hs : I s) (hp : M.Along P s as) : M.Along Q s as := by
  induction as generalizing s with
  | nil => trivial
  | cons a as ih => exact ⟨hq s a hs hp.1, ih (hstep s a hs hp.1) hp.2⟩

/-- Labels are judged where they are emitted: what each step's log satisfies, the trace does. -/
theorem trace_forall {P : σ → α → Prop} {I : σ → Prop} {Q : ε → Prop}
    (hstep : ∀ s a, I s → P s a → I (M.next s a))
    (hlog : ∀ s a, I s → P s a → ∀ e ∈ M.log s a, Q e)
    {s : σ} {as : List α} (hs : I s) (hp : M.Along P s as) : ∀ e ∈ M.trace s as, Q e := by
  induction as generalizing s with
  | nil => intro e he; cases he
  | cons a as ih =>
    intro e he
    rcases List.mem_append.mp he with he | he
    · exact hlog s a hs hp.1 e he
    · exact ih (hstep s a hs hp.1) hp.2 e he

/-- The invariant rule for a relation between what was emitted and the state reached. -/
theorem inv_run_trace {P : σ → α → Prop} {I : List ε → σ → Prop}
    (hstep : ∀ es s a, I es s → P s a → I (es ++ M.log s a) (M.next s a))
    {es : List ε} {s : σ} {as : List α} (hs : I es s) (hp : M.Along P s as) :
    I (es ++ M.trace s as) (M.run s as) := by
  induction as generalizing es s with
  | nil => simpa using hs
  | cons a as ih =>
    rw [trace_cons, run_cons, ← List.append_assoc]
    exact ih (hstep es s a hs hp.1) hp.2

/-- Side conditions of a run are side conditions of its initial segments. -/
theorem along_of_prefix {P : σ → α → Prop} {s : σ} {as bs : List α} (hb : bs <+: as)
    (hp : M.Along P s as) : M.Along P s bs := by
  obtain ⟨cs, rfl⟩ := hb
  exact (along_append.mp hp).1

end Machine

end MandatePlane.LabelledRun

import Mathlib.Logic.Basic

/-!
# Sessions whose writes outlive an exception

A computation in a session reads and writes a state and returns or raises.  What it has
written stays in either case; whoever catches the exception decides what becomes of it.

A computation that builds its result and raises without a state, so that it cannot leave
half of its writes, may be followed by one in a session: they raise the same faults, and
where the fault is one that is caught, the session has written nothing.
-/

namespace MandatePlane.RaisingSession

variable {σ φ α β γ : Type}

/-- A computation in a session. -/
def InSession (σ φ α : Type) := σ → Except φ α × σ

instance : Monad (InSession σ φ) where
  pure a := fun s => (.ok a, s)
  bind x f := fun s =>
    match x s with
    | (.ok a, s) => f a s
    | (.error fault, s) => (.error fault, s)

/-- A computation without writes. -/
def raising (x : Except φ α) : InSession σ φ α := fun s => (x, s)

def reading (f : σ → α) : InSession σ φ α := fun s => (.ok (f s), s)

def writing (f : σ → σ) : InSession σ φ Unit := fun s => (.ok (), f s)

@[simp] theorem reading_bind (r : σ → α) (f : α → InSession σ φ β) (s : σ) :
    (reading r >>= f) s = f (r s) s := rfl

@[simp] theorem writing_bind (w : σ → σ) (f : Unit → InSession σ φ β) (s : σ) :
    (writing w >>= f) s = f () (w s) := rfl

@[simp] theorem writing_apply (w : σ → σ) (s : σ) :
    (writing w : InSession σ φ Unit) s = (.ok (), w s) := rfl

/-- A part that has ended without a write in `s` might as well have read nothing. -/
theorem bind_of_unwritten {x : InSession σ φ α} {y : Except φ α} {s : σ} (h : x s = (y, s))
    (f : α → InSession σ φ β) : (x >>= f) s = (raising y >>= f) s := by
  show (match x s with
    | (.ok a, s) => f a s
    | (.error fault, s) => (.error fault, s)) = _
  rw [h]
  rfl

/-- A part that has returned. -/
theorem bind_of_returned {x : InSession σ φ α} {a : α} {s s' : σ} (h : x s = (.ok a, s'))
    (f : α → InSession σ φ β) : (x >>= f) s = f a s' := by
  show (match x s with
    | (.ok a, s) => f a s
    | (.error fault, s) => (.error fault, s)) = _
  rw [h]

/-- A part that has raised. -/
theorem bind_of_raised {x : InSession σ φ α} {fault : φ} {s s' : σ} (h : x s = (.error fault, s'))
    (f : α → InSession σ φ β) : (x >>= f) s = (.error fault, s') := by
  show (match x s with
    | (.ok a, s) => f a s
    | (.error fault, s) => (.error fault, s)) = _
  rw [h]

/-- **Follows**: a computation in a session that has started in `s` ends as `y` does: it returns in
the state that `y` has built, or raises the same fault, without a write if that is caught. -/
inductive Follows (caught : φ → Prop) (state : γ → σ) (s : σ) :
    Except φ α × σ → Except φ γ → Prop
  | returned (a : α) (c : γ) : Follows caught state s (.ok a, state c) (.ok c)
  | raised {fault : φ} (h : caught fault) : Follows caught state s (.error fault, s) (.error fault)
  | lost {fault : φ} (h : ¬ caught fault) (s' : σ) :
      Follows caught state s (.error fault, s') (.error fault)

section Rules

variable {caught : φ → Prop} {state : γ → σ} {s : σ}

/-- What raises without a write follows itself. -/
theorem Follows.error (fault : φ) :
    Follows caught state s ((.error fault, s) : Except φ α × σ) (.error fault) := by
  by_cases h : caught fault
  · exact .raised h
  · exact .lost h s

/-- **The rule of sequence**, for a first part without writes. -/
theorem Follows.raising_bind {x : Except φ β} {f : β → InSession σ φ α} {g : β → Except φ γ}
    (h : ∀ b, x = .ok b → Follows caught state s (f b s) (g b)) :
    Follows caught state s ((raising x >>= f) s) (x >>= g) := by
  cases x with
  | error fault => exact .error fault
  | ok b => exact h b rfl

end Rules

end MandatePlane.RaisingSession

import Mathlib.Init

/-!
# Computations in lockstep

Two computations that may fail run in lockstep when they fail with the same error or
both return, with results that are related.  Where the first steps are in lockstep
and related results are continued in lockstep, the wholes are.
-/

namespace MandatePlane.Lockstep

variable {ε α α' β β' : Type}

/-- The same error, or related results. -/
inductive InStep (R : α → α' → Prop) : Except ε α → Except ε α' → Prop
  | failed (e : ε) : InStep R (.error e) (.error e)
  | returned {a : α} {a' : α'} (h : R a a') : InStep R (.ok a) (.ok a')

variable {R : α → α' → Prop} {S : β → β' → Prop} {x : Except ε α} {x' : Except ε α'}
  {f : α → Except ε β} {f' : α' → Except ε β'}

/-- **Sequencing.** -/
theorem InStep.bind (h : InStep R x x') (hf : ∀ a a', R a a' → InStep S (f a) (f' a')) :
    InStep S (x >>= f) (x' >>= f') := by
  cases h with
  | failed e => exact .failed e
  | returned hr => exact hf _ _ hr

/-- The same computation before two that are in lockstep. -/
theorem InStep.bind_same (x : Except ε α) {f : α → Except ε β} {f' : α → Except ε β'}
    (hf : ∀ a, InStep S (f a) (f' a)) : InStep S (x >>= f) (x >>= f') := by
  cases x with
  | error e => exact .failed e
  | ok a => exact hf a

end MandatePlane.Lockstep

import MandatePlane.SweepSessions

/-!
# What the statements of a sweep keep

A sweep goes on with the operations it has locked: every statement but the locks leaves it
with some of the operations it had.  No operation is in its hands twice, and it moves the
budget of the operations only that it settles.
-/

namespace MandatePlane.SweepTurns

open DomainModel KeyedTable ReconciliationWorker SweepVerdicts SweepCorrectness
open ReadCommitted OperationSessions SweepSessions

/-! ### Where a sweep stands -/

def ids (settled : List Ruling) : List String := settled.map fun r => r.op.id

/-- The operations a sweep has locked. -/
def held : SweepPoint → List FinancialOperation
  | .lock _ locked => locked
  | .next todo settled => todo ++ settled.map Ruling.op
  | .transaction op todo settled => op :: (todo ++ settled.map Ruling.op)
  | .budget r todo settled => r.op :: (todo ++ settled.map Ruling.op)
  | .finish settled => settled.map Ruling.op
  | _ => []

/-- The operations it still asks for. -/
def sought : SweepPoint → List FinancialOperation
  | .lock rest _ => rest
  | _ => []

/-- The rulings whose mandates it has written. -/
def ruledOn : SweepPoint → List Ruling
  | .next _ settled => settled
  | .transaction _ _ settled => settled
  | .budget _ _ settled => settled
  | .finish settled => settled
  | .raised settled _ => settled
  | _ => []

/-- No operation twice, and only settlements among the rulings. -/
structure Orderly (p : SweepPoint) : Prop where
  nodup : ((held p ++ sought p).map FinancialOperation.id).Nodup
  decided : ∀ r ∈ ruledOn p, r.verdict ≠ .keep

/-! ### One statement -/

/-- What a statement does, in the store that the sweep sees. -/
inductive SweepTurn (call : SweepCall) (s : Store) :
    SweepPoint → List Row → Effect Store Event SweepPoint → Prop
  | selected {rows : List Row} :
      SweepTurn call s .select rows ⟨id, [], .lock (call.arrange (stuckOperations call.inputs s)) []⟩
  | locked {rows : List Row} {locked : List FinancialOperation} :
      SweepTurn call s (.lock [] locked) rows ⟨id, [], .next locked []⟩
  | skipped {rows : List Row} {op : FinancialOperation} {todo : List FinancialOperation}
      {settled : List Ruling} :
      SweepTurn call s (.next (op :: todo) settled) rows ⟨id, [], .next todo settled⟩
  | found {rows : List Row} {op : FinancialOperation} {todo : List FinancialOperation}
      {settled : List Ruling} :
      SweepTurn call s (.next (op :: todo) settled) rows ⟨id, [], .transaction op todo settled⟩
  | raised {rows : List Row} {op : FinancialOperation} {todo : List FinancialOperation}
      {settled : List Ruling} {refusal : Refusal} :
      SweepTurn call s (.transaction op todo settled) rows ⟨id, [], .raised settled refusal⟩
  | ruled {rows : List Row} {op : FinancialOperation} {todo : List FinancialOperation}
      {settled : List Ruling} {v : Verdict} :
      SweepTurn call s (.transaction op todo settled) rows ⟨id, [], .budget ⟨op, v⟩ todo settled⟩
  | kept {rows : List Row} {r : Ruling} {todo : List FinancialOperation} {settled : List Ruling} :
      SweepTurn call s (.budget r todo settled) rows ⟨id, [], .next todo settled⟩
  | settled {r : Ruling} {todo : List FinancialOperation} {settled : List Ruling}
      (hr : r.verdict ≠ .keep) :
      SweepTurn call s (.budget r todo settled) [.mandate r.op.mandateId]
        ⟨r.budget, [], .next todo (settled ++ [r])⟩
  | flushed {settled : List Ruling} :
      SweepTurn call s (.next [] settled) (settled.flatMap Ruling.rows)
        ⟨flushes settled, settled.flatMap Ruling.posted, .finish settled⟩

/-- What the lock of a row does that has got these rows. -/
inductive SweepGrab (call : SweepCall) (s : Store) :
    SweepPoint → List Row → Effect Store Event SweepPoint → Prop
  | skipped {free : List Row} {op : FinancialOperation} {rest locked : List FinancialOperation} :
      SweepGrab call s (.lock (op :: rest) locked) free ⟨id, [], .lock rest locked⟩
  | locked {free : List Row} {op row : FinancialOperation} {rest locked : List FinancialOperation}
      (hrow : s.operations.find? op.id = some row) (hstuck : isStuck call.inputs row = true)
      (hfree : .operation op.id ∈ free) :
      SweepGrab call s (.lock (op :: rest) locked) free ⟨id, [], .lock rest (locked ++ [row])⟩

section Statement

variable {call : SweepCall} {s : Store} {p next : SweepPoint} {rows : Store → List Row}
  {run : Store → Effect Store Event SweepPoint}

/-- **One statement of a sweep.** -/
theorem sweep_ran (hcode : sweepCode call p = .exec rows run) :
    SweepTurn call s p (rows s) (run s) := by
  cases p with
  | select =>
    cases hcode
    exact .selected
  | lock rest locked =>
    cases rest with
    | nil =>
      cases hcode
      exact .locked
    | cons op rest => cases hcode
  | next todo settled =>
    cases todo with
    | nil =>
      cases hcode
      exact .flushed
    | cons op todo =>
      cases hcode
      cases hmandate : s.mandates.find? op.mandateId with
      | none =>
        simp only [hmandate]
        exact .skipped
      | some mandate =>
        simp only [hmandate]
        exact .found
  | transaction op todo settled =>
    cases hcode
    cases htx : scalarOneOrFail (s.transactionsOf op.id) with
    | error refusal =>
      simp only [htx]
      exact .raised
    | ok tx =>
      simp only [htx]
      exact .ruled
  | budget r todo settled =>
    obtain ⟨op, v⟩ := r
    cases v with
    | keep =>
      cases hcode
      exact .kept
    | release message reason =>
      cases hcode
      exact .settled nofun
    | commit orderId =>
      cases hcode
      exact .settled nofun
  | finish settled => cases hcode
  | returned count => cases hcode
  | raised settled refusal => cases hcode
  | refused refusal => cases hcode

/-- **The lock of one row**, which looks at the row again. -/
theorem sweep_grabbed {run : List Row → Store → Effect Store Event SweepPoint} {free : List Row}
    (hcode : sweepCode call p = .grab rows run) (hfree : ∀ k ∈ free, k ∈ rows s) :
    SweepGrab call s p free (run free s) := by
  cases p with
  | lock rest locked =>
    cases rest with
    | nil => cases hcode
    | cons op rest =>
      cases hcode
      cases hrow : s.operations.find? op.id with
      | none =>
        cases free with
        | nil => exact .skipped
        | cons k ks =>
          simp only [hrow]
          exact .skipped
      | some row =>
        cases free with
        | nil => exact .skipped
        | cons k ks =>
          have hk := hfree k List.mem_cons_self
          dsimp only at hk
          rw [hrow] at hk
          -- a row that is asked for is stuck
          have hstuck : isStuck call.inputs row = true := by
            by_contra hnot
            rw [if_neg (show ¬ Option.any (isStuck call.inputs) (some row) = true from hnot)] at hk
            cases hk
          rw [if_pos (show Option.any (isStuck call.inputs) (some row) = true from hstuck),
            List.mem_singleton] at hk
          simp only [hrow]
          refine .locked hrow hstuck ?_
          rw [hk]
          exact List.mem_cons_self
  | next todo settled => cases todo <;> cases hcode
  | budget r todo settled =>
    obtain ⟨op, v⟩ := r
    cases v <;> cases hcode
  | select => cases hcode
  | transaction op todo settled => cases hcode
  | finish settled => cases hcode
  | returned count => cases hcode
  | raised settled refusal => cases hcode
  | refused refusal => cases hcode

/-- A sweep commits after its flush. -/
theorem sweepCode_commit (hcode : sweepCode call p = .commit next) :
    ∃ settled, p = .finish settled ∧ next = .returned (settled.flatMap Ruling.posted).length := by
  cases p with
  | lock rest locked => cases rest <;> cases hcode
  | next todo settled => cases todo <;> cases hcode
  | budget r todo settled =>
    obtain ⟨op, v⟩ := r
    cases v <;> cases hcode
  | finish settled =>
    cases hcode
    exact ⟨settled, rfl, rfl⟩
  | _ => cases hcode

/-- It rolls back when a query has raised. -/
theorem sweepCode_rollback (hcode : sweepCode call p = .rollback next) :
    ∃ settled refusal, p = .raised settled refusal ∧ next = .refused refusal := by
  cases p with
  | lock rest locked => cases rest <;> cases hcode
  | next todo settled => cases todo <;> cases hcode
  | budget r todo settled =>
    obtain ⟨op, v⟩ := r
    cases v <;> cases hcode
  | raised settled refusal =>
    cases hcode
    exact ⟨settled, refusal, rfl, rfl⟩
  | _ => cases hcode

end Statement

/-! ### What it keeps -/

section Kept

variable {call : SweepCall} {s : Store} {p : SweepPoint} {rows : List Row}
  {e : Effect Store Event SweepPoint}

/-- A sweep goes on with operations it has. -/
theorem SweepTurn.held_subperm (h : SweepTurn call s p rows e) :
    (held e.next).Subperm (held p) := by
  cases h with
  | selected => exact .refl _
  | @locked _ locked =>
    show (locked ++ []).Subperm locked
    rw [List.append_nil]
  | skipped => exact (List.sublist_cons_self _ _).subperm
  | found => exact .refl _
  | raised => exact List.nil_subperm
  | ruled => exact .refl _
  | kept => exact (List.sublist_cons_self _ _).subperm
  | @settled r todo settled _ =>
    show (todo ++ (settled ++ [r]).map Ruling.op).Subperm (r.op :: (todo ++ settled.map Ruling.op))
    rw [List.map_append, ← List.append_assoc]
    exact (List.perm_append_singleton r.op _).subperm
  | flushed => exact .refl _

/-- **A statement keeps the order.** -/
theorem SweepTurn.orderly (h : SweepTurn call s p rows e) (hp : Orderly p) : Orderly e.next := by
  have hsub := h.held_subperm
  have hnodup : ((held p).map FinancialOperation.id).Nodup := by
    have hall := hp.nodup
    rw [List.map_append, List.nodup_append] at hall
    exact hall.1
  have hnext (hsought : sought e.next = []) :
      ((held e.next ++ sought e.next).map FinancialOperation.id).Nodup := by
    obtain ⟨l, hperm, hsublist⟩ := hsub
    rw [hsought, List.append_nil]
    exact (hperm.map _).nodup_iff.mp ((hsublist.map _).nodup hnodup)
  cases h with
  | selected =>
    refine ⟨?_, fun r hr => absurd hr List.not_mem_nil⟩
    exact ((call.perm _).map _).nodup_iff.mpr stuckOperations_nodup
  | locked => exact ⟨hnext rfl, fun r hr => absurd hr List.not_mem_nil⟩
  | skipped => exact ⟨hnext rfl, hp.decided⟩
  | found => exact ⟨hnext rfl, hp.decided⟩
  | raised => exact ⟨hnext rfl, hp.decided⟩
  | ruled => exact ⟨hnext rfl, hp.decided⟩
  | kept => exact ⟨hnext rfl, hp.decided⟩
  | settled hr =>
    refine ⟨hnext rfl, fun r' hr' => ?_⟩
    rcases List.mem_append.mp hr' with hold | hnew
    · exact hp.decided r' hold
    · rw [List.mem_singleton.mp hnew]
      exact hr
  | flushed => exact ⟨hnext rfl, hp.decided⟩

/-- **A lock keeps it**, since the row it takes is the one it asks for. -/
theorem SweepGrab.orderly (h : SweepGrab call s p rows e) (hp : Orderly p) : Orderly e.next := by
  cases h with
  | @skipped _ op rest locked =>
    have hnodup : ((locked ++ op :: rest).map FinancialOperation.id).Nodup := hp.nodup
    refine ⟨?_, hp.decided⟩
    exact (((List.sublist_cons_self op rest).append_left locked).map _).nodup hnodup
  | @locked _ op row rest locked hrow _ _ =>
    have hid : row.id = op.id := Table.key_of_find? hrow
    have hnodup : ((locked ++ op :: rest).map FinancialOperation.id).Nodup := hp.nodup
    refine ⟨?_, hp.decided⟩
    show ((locked ++ [row] ++ rest).map FinancialOperation.id).Nodup
    rw [List.append_assoc, List.singleton_append, List.map_append, List.map_cons, hid,
      ← List.map_cons, ← List.map_append]
    exact hnodup

/-- The rulings of a sweep are about different operations. -/
theorem Orderly.ids_nodup {settled : List Ruling} (h : Orderly (.finish settled)) :
    (ids settled).Nodup := by
  have hnodup := h.nodup
  rw [show sought (.finish settled) = [] from rfl, List.append_nil] at hnodup
  have hids : (held (.finish settled)).map FinancialOperation.id = ids settled := List.map_map
  rw [hids] at hnodup
  exact hnodup

end Kept

end MandatePlane.SweepTurns

import MandatePlane.OperationSessions
import MandatePlane.SweepCorrectness

/-!
# A sweep, statement by statement

The worker selects its rows with `FOR UPDATE SKIP LOCKED`: it takes them one by one, passes
over those another session has locked, and looks again at the row it has locked.  Then it
reads the mandate and the transaction of each, asks the gateway, and sends the UPDATE of the
mandate at once.  The session does not flush by itself, so the rows of the operations, the
transactions and the audit are written with the commit.

By itself, the program is the sweep over its rows in the order in which it got them.
-/

namespace MandatePlane.SweepSessions

open DomainModel KeyedTable ReconciliationWorker SweepVerdicts SweepCorrectness
open ControlPlane ReadCommitted OperationSessions

/-- The condition of the SELECT. -/
def isStuck (inputs : SweepInputs) (op : FinancialOperation) : Bool :=
  op.status.inFlight && op.createdAt ≤ inputs.startedAt - microseconds inputs.timeoutSeconds

/-- A sweep, with the order in which the database hands it its rows. -/
structure SweepCall where
  inputs : SweepInputs
  arrange : List FinancialOperation → List FinancialOperation
  perm : ∀ ops, (arrange ops).Perm ops

/-- An operation with what has been decided about it. -/
structure Ruling where
  op : FinancialOperation
  verdict : Verdict

namespace Ruling

/-- The UPDATE of the mandate. -/
def budget (r : Ruling) (s : Store) : Store :=
  match r.verdict with
  | .keep => s
  | .release _ _ => s.updateMandate r.op.mandateId (Mandate.release r.op.amount)
  | .commit _ => s.updateMandate r.op.mandateId (Mandate.commitReserved r.op.amount)

/-- The rows that are flushed with the commit. -/
def flush (r : Ruling) (s : Store) : Store :=
  match r.verdict with
  | .keep => s
  | .release message reason =>
    (s.updateOperation r.op.id (.moveToWith .failed (some message))
      (FinancialOperation.moveToWith_text_key .failed message)).audit
      (workerAudit .budgetReleased r.op
        [("released_amount", .int r.op.amount), ("reason", .str reason)])
  | .commit orderId =>
    ((s.updateOperation r.op.id (.moveTo .succeeded)
      (FinancialOperation.moveTo_key .succeeded)).updateTransactions
      (fun tx => tx.operationId = r.op.id) (fun tx => { tx with status := .captured })).audit
        (workerAudit .budgetCommitted r.op
          [("committed_amount", .int r.op.amount), ("order_id", .str orderId)])

/-- The rows of the flush. -/
def rows (r : Ruling) : List Row :=
  match r.verdict with
  | .keep => []
  | .release _ _ => [.operation r.op.id]
  | .commit _ => [.operation r.op.id, .transactions r.op.id]

def posted (r : Ruling) : List Event := postings r.verdict r.op

end Ruling

/-- The UPDATEs of the mandates, one after the other. -/
def budgets (settled : List Ruling) (s : Store) : Store := settled.foldl (fun s r => r.budget s) s

/-- The flush. -/
def flushes (settled : List Ruling) (s : Store) : Store := settled.foldl (fun s r => r.flush s) s

/-- All writes of the rulings. -/
def carried (settled : List Ruling) (s : Store) : Store :=
  settled.foldl (fun s r => (carry r.verdict r.op s).1) s

inductive SweepPoint where
  | select
  | lock (rest locked : List FinancialOperation)
  | next (todo : List FinancialOperation) (settled : List Ruling)
  | transaction (op : FinancialOperation) (todo : List FinancialOperation) (settled : List Ruling)
  | budget (r : Ruling) (todo : List FinancialOperation) (settled : List Ruling)
  | finish (settled : List Ruling)
  | returned (count : ℕ)
  | raised (settled : List Ruling) (refusal : Refusal)
  | refused (refusal : Refusal)

/-- The lock of one selected row: free or passed over, and the condition checked again. -/
def lockRow (call : SweepCall) (op : FinancialOperation) (rest locked : List FinancialOperation) :
    Stmt Store Row Event SweepPoint :=
  .grab (fun s => if (s.operations.find? op.id).any (isStuck call.inputs) then [.operation op.id]
    else []) fun free s =>
      match free, s.operations.find? op.id with
      | _ :: _, some row => ⟨id, [], .lock rest (locked ++ [row])⟩
      | _, _ => ⟨id, [], .lock rest locked⟩

/-- The UPDATE of one mandate, if the operation is settled. -/
def budgetStatement (r : Ruling) (todo : List FinancialOperation) (settled : List Ruling) :
    Stmt Store Row Event SweepPoint :=
  match r.verdict with
  | .keep => .look fun _ => .next todo settled
  | _ => .exec (fun _ => [.mandate r.op.mandateId]) fun _ =>
    ⟨r.budget, [], .next todo (settled ++ [r])⟩

/-- The statement at each point of a sweep. -/
def sweepCode (call : SweepCall) : SweepPoint → Stmt Store Row Event SweepPoint
  | .select => .look fun s => .lock (call.arrange (stuckOperations call.inputs s)) []
  | .lock [] locked => .look fun _ => .next locked []
  | .lock (op :: rest) locked => lockRow call op rest locked
  | .next (op :: todo) settled => .look fun s =>
    match s.mandates.find? op.mandateId with
    | none => .next todo settled
    | some _ => .transaction op todo settled
  -- the gateway is asked where an order is found
  | .transaction op todo settled => .look fun s =>
    match scalarOneOrFail (s.transactionsOf op.id) with
    | .error refusal => .raised settled refusal
    | .ok tx => .budget ⟨op, verdict call.inputs op tx⟩ todo settled
  | .budget r todo settled => budgetStatement r todo settled
  | .next [] settled => .exec (fun _ => settled.flatMap Ruling.rows) fun _ =>
    ⟨flushes settled, settled.flatMap Ruling.posted, .finish settled⟩
  | .finish settled => .commit (.returned (settled.flatMap Ruling.posted).length)
  | .raised _ refusal => .rollback (.refused refusal)
  | .returned _ => .stop
  | .refused _ => .stop

/-! ### The writes -/

section Rulings

variable (settled : List Ruling) (r : Ruling) (s : Store)

theorem carry_split : (carry r.verdict r.op s).1 = r.flush (r.budget s) := by
  obtain ⟨op, v⟩ := r
  cases v <;> rfl

theorem flush_budget_comm (r' : Ruling) : r.flush (r'.budget s) = r'.budget (r.flush s) := by
  obtain ⟨op, v⟩ := r
  obtain ⟨op', v'⟩ := r'
  cases v <;> cases v' <;> rfl

theorem budgets_snoc : budgets (settled ++ [r]) s = r.budget (budgets settled s) := by
  unfold budgets
  rw [List.foldl_append]
  rfl

theorem carried_snoc : carried (settled ++ [r]) s = (carry r.verdict r.op (carried settled s)).1 := by
  unfold carried
  rw [List.foldl_append]
  rfl

theorem flush_budgets_comm : r.flush (budgets settled s) = budgets settled (r.flush s) := by
  induction settled generalizing s with
  | nil => rfl
  | cons r' settled ih =>
    show r.flush (budgets settled (r'.budget s)) = budgets settled (r'.budget (r.flush s))
    rw [ih, flush_budget_comm]

/-- **First all mandates, then all rows**, comes to the same as settling one operation after the
other. -/
theorem flushes_budgets : flushes settled (budgets settled s) = carried settled s := by
  induction settled generalizing s with
  | nil => rfl
  | cons r settled ih =>
    show flushes settled (r.flush (budgets settled (r.budget s))) =
      carried settled (carry r.verdict r.op s).1
    rw [flush_budgets_comm, ih, carry_split]

theorem flush_mandates : (r.flush s).mandates = s.mandates := by
  obtain ⟨op, v⟩ := r
  cases v <;> rfl

theorem flushes_mandates : (flushes settled s).mandates = s.mandates := by
  induction settled generalizing s with
  | nil => rfl
  | cons r settled ih => exact (ih (r.flush s)).trans (flush_mandates r s)

theorem budget_rows : (r.budget s).operations = s.operations ∧
    (r.budget s).transactions = s.transactions := by
  obtain ⟨op, v⟩ := r
  cases v <;> exact ⟨rfl, rfl⟩

theorem budgets_rows : (budgets settled s).operations = s.operations ∧
    (budgets settled s).transactions = s.transactions := by
  induction settled generalizing s with
  | nil => exact ⟨rfl, rfl⟩
  | cons r settled ih =>
    obtain ⟨hoperations, htransactions⟩ := ih (r.budget s)
    exact ⟨hoperations.trans (budget_rows r s).1, htransactions.trans (budget_rows r s).2⟩

/-- What is decided about an operation whose transaction is looked up in the store. -/
def ruled (inputs : SweepInputs) (op : FinancialOperation) (s : Store) : Except Refusal Verdict :=
  (scalarOneOrFail (s.transactionsOf op.id)).map (verdict inputs op)

/-- A flush leaves the gateway ids. -/
theorem ruled_flush (inputs : SweepInputs) (op : FinancialOperation) :
    ruled inputs op (r.flush s) = ruled inputs op s := by
  have hrows : (r.flush s).transactionsOf op.id = (carry r.verdict r.op s).1.transactionsOf op.id := by
    rw [carry_split, flush_budget_comm]
    unfold Store.transactionsOf
    rw [(budget_rows r (r.flush s)).2]
  unfold ruled
  rw [hrows, carry_transactionsOf]
  match s.transactionsOf op.id with
  | [] => rfl
  | [tx] =>
    show Except.ok (verdict inputs op (some (if _ then _ else tx))) = .ok (verdict inputs op (some tx))
    refine congrArg Except.ok (verdict_congr ?_ rfl rfl)
    split <;> rfl
  | _ :: _ :: _ => rfl

theorem ruled_flushes (inputs : SweepInputs) (op : FinancialOperation) :
    ruled inputs op (flushes settled s) = ruled inputs op s := by
  induction settled generalizing s with
  | nil => rfl
  | cons r settled ih => exact (ih (r.flush s)).trans (ruled_flush r s inputs op)

end Rulings

/-! ### A sweep by itself -/

section Solo

variable {call : SweepCall} {s : Store}

def sweepAnswer : Except Refusal (Committed ℕ) → SweepPoint
  | .ok c => .returned c.value
  | .error refusal => .refused refusal

/-- The answer of a loop that has settled some operations before. -/
def closing (settled : List Ruling) (rest : Except Refusal (Store × List Event)) :
    Except Refusal (Committed ℕ) :=
  rest.map fun done =>
    let events := settled.flatMap Ruling.posted ++ done.2
    ⟨events.length, done.1, events⟩

/-- What is left of the loop. -/
def SweepLeaves (call : SweepCall) (s : Store) (p : SweepPoint) (w : Store → Store)
    (answer : Except Refusal (Committed ℕ)) : Prop :=
  Ends (sweepCode call) s p w (outcome s answer).2 (outcome s answer).1 (sweepAnswer answer)

/-- An operation that posts nothing leaves the answer to the others. -/
theorem closing_kept (settled : List Ruling) (rest : Except Refusal (Store × List Event)) :
    closing settled (rest >>= fun rest => pure (rest.1, [] ++ rest.2)) = closing settled rest := by
  cases rest <;> rfl

/-- An operation that is settled: its budget first, then what is left of the loop. -/
theorem leaves_settled {op : FinancialOperation} {v : Verdict} {todo : List FinancialOperation}
    {settled : List Ruling}
    (hcode : sweepCode call (.budget ⟨op, v⟩ todo settled) =
      .exec (fun _ => [.mandate op.mandateId]) fun _ =>
        ⟨Ruling.budget ⟨op, v⟩, [], .next todo (settled ++ [⟨op, v⟩])⟩)
    (hrest : SweepLeaves call s (.next todo (settled ++ [⟨op, v⟩])) (budgets (settled ++ [⟨op, v⟩]))
      (closing (settled ++ [⟨op, v⟩])
        (reconcileOperations call.inputs todo (carried (settled ++ [⟨op, v⟩]) s)))) :
    SweepLeaves call s (.budget ⟨op, v⟩ todo settled) (budgets settled)
      (closing settled (reconcileOperations call.inputs todo
        (carry v op (carried settled s)).1 >>= fun rest =>
          pure (rest.1, (carry v op (carried settled s)).2 ++ rest.2))) := by
  rw [carried_snoc] at hrest
  refine .ran hcode rfl ?_ (List.nil_append _).symm
  have hwrites : Ruling.budget ⟨op, v⟩ ∘ budgets settled = budgets (settled ++ [⟨op, v⟩]) :=
    funext fun s => (budgets_snoc settled ⟨op, v⟩ s).symm
  show SweepLeaves call s _ (Ruling.budget ⟨op, v⟩ ∘ budgets settled) _
  rw [hwrites]
  show SweepLeaves call s _ _ _
  dsimp only at hrest
  generalize reconcileOperations call.inputs todo (carry v op (carried settled s)).1 = rest
    at hrest ⊢
  cases rest with
  | error refusal => exact hrest
  | ok done =>
    have hposted : (settled ++ [(⟨op, v⟩ : Ruling)]).flatMap Ruling.posted ++ done.2 =
        settled.flatMap Ruling.posted ++ ((carry v op (carried settled s)).2 ++ done.2) := by
      rw [List.flatMap_append, List.append_assoc, carry_events]
      simp only [List.flatMap_cons, List.flatMap_nil, List.append_nil, Ruling.posted]
    unfold closing at hrest ⊢
    simp only [Except.map, bind, Except.bind, pure, Except.pure] at hrest ⊢
    rw [hposted] at hrest
    exact hrest

/-- **The loop and the flush.** -/
theorem leaves_next (todo : List FinancialOperation) (settled : List Ruling) :
    SweepLeaves call s (.next todo settled) (budgets settled)
      (closing settled (reconcileOperations call.inputs todo (carried settled s))) := by
  induction todo generalizing settled with
  | nil =>
    have hstore := flushes_budgets settled s
    refine .ran rfl rfl (.commit rfl ?_) rfl
    show Ends (sweepCode call) (flushes settled (budgets settled s))
      (.returned (settled.flatMap Ruling.posted).length) id [] (carried settled s)
      (.returned (settled.flatMap Ruling.posted ++ []).length)
    rw [hstore, List.append_nil]
    exact .stop rfl
  | cons op todo ih =>
    have hmandates : (carried settled s).mandates = (budgets settled s).mandates := by
      rw [← flushes_budgets, flushes_mandates]
    have hruled : ruled call.inputs op (carried settled s) =
        ruled call.inputs op (budgets settled s) := by
      rw [← flushes_budgets, ruled_flushes]
    unfold reconcileOperations
    rw [reconcileOperation_eq, hmandates]
    cases hmandate : (budgets settled s).mandates.find? op.mandateId with
    | none =>
      refine .ran rfl (by simp only [hmandate]; rfl) ?_ (List.nil_append _).symm
      show SweepLeaves call s (.next todo settled) (budgets settled)
        (closing settled (reconcileOperations call.inputs todo (carried settled s) >>= fun rest =>
          pure (rest.1, [] ++ rest.2)))
      rw [closing_kept]
      exact ih settled
    | some mandate =>
      refine .ran rfl (by simp only [hmandate]; rfl) ?_ (List.nil_append _).symm
      -- the transaction is read before the flush of the rulings so far
      have hcarry : (scalarOneOrFail ((carried settled s).transactionsOf op.id)).map
          (fun tx => carry (verdict call.inputs op tx) op (carried settled s)) =
            (ruled call.inputs op (budgets settled s)).map
              fun v => carry v op (carried settled s) := by
        rw [← hruled]
        unfold ruled
        cases scalarOneOrFail ((carried settled s).transactionsOf op.id) <;> rfl
      dsimp only
      rw [hcarry]
      unfold ruled
      cases htx : scalarOneOrFail ((budgets settled s).transactionsOf op.id) with
      | error refusal =>
        refine .ran rfl (by simp only [Function.comp_apply, id_eq, htx]; rfl) ?_
          (List.nil_append _).symm
        exact .rollback rfl (.stop rfl)
      | ok tx =>
        refine .ran rfl (by simp only [Function.comp_apply, id_eq, htx]; rfl) ?_
          (List.nil_append _).symm
        show SweepLeaves call s (.budget ⟨op, verdict call.inputs op tx⟩ todo settled) _
          (closing settled (reconcileOperations call.inputs todo
            (carry (verdict call.inputs op tx) op (carried settled s)).1 >>= _))
        cases verdict call.inputs op tx with
        | keep =>
          refine .ran rfl rfl ?_ (List.nil_append _).symm
          show SweepLeaves call s (.next todo settled) (budgets settled)
            (closing settled (reconcileOperations call.inputs todo (carried settled s) >>= fun rest =>
              pure (rest.1, [] ++ rest.2)))
          rw [closing_kept]
          exact ih settled
        | release message reason => exact leaves_settled rfl (ih _)
        | commit orderId => exact leaves_settled rfl (ih _)

/-- **The locks**, where every selected row is free and still stuck. -/
theorem leaves_lock {rest locked : List FinancialOperation} {answer : Except Refusal (Committed ℕ)}
    (hrest : ∀ op ∈ rest, s.operations.find? op.id = some op ∧ isStuck call.inputs op = true)
    (h : SweepLeaves call s (.next (locked ++ rest) []) id answer) :
    SweepLeaves call s (.lock rest locked) id answer := by
  induction rest generalizing locked with
  | nil =>
    rw [List.append_nil] at h
    exact .ran rfl rfl h (List.nil_append _).symm
  | cons op rest ih =>
    obtain ⟨hfind, hstuck⟩ := hrest op List.mem_cons_self
    have hrows : (if (s.operations.find? op.id).any (isStuck call.inputs) = true then
        [Row.operation op.id] else []) = [.operation op.id] := by
      rw [hfind]
      exact if_pos hstuck
    have hnext : SweepLeaves call s (.lock rest (locked ++ [op])) id answer := by
      refine ih (fun op' hop' => hrest op' (List.mem_cons_of_mem _ hop')) ?_
      rw [List.append_assoc]
      exact h
    have hrun : (match (if (s.operations.find? op.id).any (isStuck call.inputs) = true then
        [Row.operation op.id] else []), s.operations.find? op.id with
        | _ :: _, some row => (⟨id, [], .lock rest (locked ++ [row])⟩ : Effect Store Event SweepPoint)
        | _, _ => ⟨id, [], .lock rest locked⟩) = ⟨id, [], .lock rest (locked ++ [op])⟩ := by
      rw [hrows, hfind]
    exact Ends.grabbed rfl hrun hnext (List.nil_append _).symm

/-- **By itself a sweep is `reconcile_stuck_reservations`**, over its rows in its order. -/
theorem ends_sweep (call : SweepCall) (s : Store) :
    Ends (sweepCode call) s .select id
      (outcome s (sweepOver call.inputs (call.arrange (stuckOperations call.inputs s)) s)).2
      (outcome s (sweepOver call.inputs (call.arrange (stuckOperations call.inputs s)) s)).1
      (sweepAnswer (sweepOver call.inputs (call.arrange (stuckOperations call.inputs s)) s)) := by
  refine .ran rfl rfl ?_ (List.nil_append _).symm
  show SweepLeaves call s (.lock (call.arrange (stuckOperations call.inputs s)) []) id
    (sweepOver call.inputs (call.arrange (stuckOperations call.inputs s)) s)
  refine leaves_lock (fun op hop => ?_) ?_
  · have hmem := (call.perm _).mem_iff.mp hop
    obtain ⟨hrow, hstuck⟩ := List.mem_filter.mp hmem
    exact ⟨Table.find?_of_mem hrow, hstuck⟩
  · have hloop := @leaves_next call s (call.arrange (stuckOperations call.inputs s)) []
    rw [List.nil_append]
    unfold sweepOver
    generalize call.arrange (stuckOperations call.inputs s) = ops at hloop ⊢
    have hsame : closing [] (reconcileOperations call.inputs ops (carried [] s)) =
        (reconcileOperations call.inputs ops s >>= fun swept =>
          pure ⟨swept.2.length, swept.1, swept.2⟩) := by
      show closing [] (reconcileOperations call.inputs ops s) = _
      cases reconcileOperations call.inputs ops s <;> rfl
    rw [hsame] at hloop
    exact hloop

end Solo

end MandatePlane.SweepSessions

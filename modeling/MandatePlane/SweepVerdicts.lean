import MandatePlane.ReconciliationWorker

/-!
# What a sweep decides

A round of the sweep looks at one operation, its mandate and its transaction, asks the
gateway, and then keeps the operation, releases it or commits it.  The decision (`verdict`)
reads only what no round changes: that the mandate is there, and the gateway ids of the
transaction.  So every decision can be read off the store the sweep started in, and the loop
is the carrying out of a list of decisions.
-/

namespace MandatePlane.SweepVerdicts

open DomainModel KeyedTable RazorpayClient ReconciliationWorker

inductive Verdict where
  | keep
  | release (message reason : String)
  | commit (orderId : String)

namespace Verdict

/-- What a verdict writes to the operation. -/
def settle : Verdict → FinancialOperation → FinancialOperation
  | .keep => id
  | .release message _ => .moveToWith .failed (some message)
  | .commit _ => .moveTo .succeeded

def commits : Verdict → Bool
  | .commit _ => true
  | _ => false

end Verdict

/-- What the worker decides about an operation whose mandate is there. -/
def verdict (inputs : SweepInputs) (op : FinancialOperation) (tx : Option Transaction) : Verdict :=
  if undispatched tx then
    .release "Reservation expired / process crashed before gateway dispatch"
      "Reservation expired / process crashed before gateway dispatch"
  else
    match tx.bind Transaction.gatewayOrderId with
    | none => .keep
    | some orderId =>
      if orderId.isEmpty then .keep
      else
        match inputs.fetchOrder op.id with
        | .error _ => .keep
        | .ok order =>
          if order.status = "paid" then .commit orderId
          else if (order.status = "attempted" ∨ order.status = "created") ∧
              inputs.checkedAt op.id - op.createdAt > microseconds 300 then
            .release "Order unpaid within timeout window" "Order unpaid timeout"
          else .keep

/-- The writes of a verdict. -/
def carry : Verdict → FinancialOperation → Store → Store × List Event
  | .keep, _, s => (s, [])
  | .release message reason, op, s => releaseStuck op message reason s
  | .commit orderId, op, s => commitStuck op orderId s

/-- What a verdict posts. -/
def postings : Verdict → FinancialOperation → List Event
  | .keep, _ => []
  | .release _ _, op => [.posted op .failed (-op.amount) 0]
  | .commit _, op => [.posted op .succeeded (-op.amount) op.amount]

theorem carry_events (v : Verdict) (op : FinancialOperation) (s : Store) :
    (carry v op s).2 = postings v op := by
  cases v <;> rfl

/-- A round of the sweep takes a decision and carries it out. -/
theorem reconcileOperation_eq (inputs : SweepInputs) (op : FinancialOperation) (s : Store) :
    reconcileOperation inputs op s =
      match s.mandates.find? op.mandateId with
      | none => .ok (s, [])
      | some _ => (scalarOneOrFail (s.transactionsOf op.id)).map fun tx =>
          carry (verdict inputs op tx) op s := by
  unfold reconcileOperation
  cases s.mandates.find? op.mandateId with
  | none => rfl
  | some mandate =>
    cases scalarOneOrFail (s.transactionsOf op.id) with
    | error e => rfl
    | ok tx =>
      show (if undispatched tx = true then _ else _) = Except.ok (carry (verdict inputs op tx) op s)
      unfold verdict
      by_cases hundispatched : undispatched tx = true
      · rw [if_pos hundispatched, if_pos hundispatched]
        rfl
      · rw [if_neg hundispatched, if_neg hundispatched]
        cases tx.bind Transaction.gatewayOrderId with
        | none => rfl
        | some orderId =>
          dsimp only
          by_cases hempty : orderId.isEmpty = true
          · rw [if_pos hempty, if_pos hempty]
            rfl
          · rw [if_neg hempty, if_neg hempty]
            cases inputs.fetchOrder op.id with
            | error _ => rfl
            | ok order =>
              dsimp only
              split
              · rfl
              · split <;> rfl

/-! ### The decision does not depend on the rounds before -/

/-- What a sweep decides about an operation of the store. -/
def decision (inputs : SweepInputs) (s : Store) (op : FinancialOperation) : Verdict :=
  if (s.mandates.find? op.mandateId).isSome then
    verdict inputs op (s.transactionsOf op.id).head?
  else .keep

/-- The query for the transaction of an operation returns at most one row. -/
def OneTransactionEach (s : Store) : Prop := ∀ id, (s.transactionsOf id).length ≤ 1

theorem reconcileOperation_decision {inputs : SweepInputs} {op : FinancialOperation} {s : Store}
    (hone : OneTransactionEach s) :
    reconcileOperation inputs op s = .ok (carry (decision inputs s op) op s) := by
  rw [reconcileOperation_eq, decision]
  cases hmandate : s.mandates.find? op.mandateId with
  | none => rfl
  | some mandate =>
    have hrows : s.transactionsOf op.id = (s.transactionsOf op.id).head?.toList := by
      rcases nil_or_singleton (hone op.id) with hrows | ⟨tx, hrows⟩ <;> rw [hrows] <;> rfl
    show (scalarOneOrFail (s.transactionsOf op.id)).map _ = _
    rw [scalarOneOrFail_eq_ok.mpr hrows]
    rfl

/-- The gateway ids of a transaction. -/
def gatewayIds (tx : Transaction) : Option String × Option String × Option String :=
  (tx.gatewayOrderId, tx.gatewayPaymentId, tx.gatewayPaymentLinkId)

theorem verdict_congr {inputs inputs' : SweepInputs} {op : FinancialOperation}
    {tx tx' : Option Transaction} (hids : tx.map gatewayIds = tx'.map gatewayIds)
    (hfetch : inputs.fetchOrder op.id = inputs'.fetchOrder op.id)
    (hclock : inputs.checkedAt op.id = inputs'.checkedAt op.id) :
    verdict inputs op tx = verdict inputs' op tx' := by
  have hundispatched : undispatched tx = undispatched tx' := by
    cases tx <;> cases tx' <;> simp_all [undispatched, gatewayIds]
  have horder : tx.bind Transaction.gatewayOrderId = tx'.bind Transaction.gatewayOrderId := by
    cases tx <;> cases tx' <;> simp_all [gatewayIds]
  unfold verdict
  rw [hundispatched, horder, hfetch, hclock]

/-! ### The writes of one verdict -/

section Carry

variable (v : Verdict) (op : FinancialOperation) (s : Store)

theorem carry_operations (id : String) :
    (carry v op s).1.operations.find? id =
      if id = op.id then (s.operations.find? op.id).map v.settle else s.operations.find? id := by
  cases v with
  | keep =>
    show s.operations.find? id = _
    by_cases hid : id = op.id
    · rw [if_pos hid, hid, Verdict.settle, Option.map_id, id_eq]
    · rw [if_neg hid]
  | release message reason =>
    exact Table.find?_modify s.operations op.id id
      (FinancialOperation.moveToWith .failed (some message)) fun _ => key_kept rfl
  | commit orderId =>
    exact Table.find?_modify s.operations op.id id (FinancialOperation.moveTo .succeeded)
      fun _ => key_kept rfl

theorem carry_transactions :
    (carry v op s).1.transactions = s.transactions.map fun tx =>
      if v.commits ∧ tx.operationId = op.id then { tx with status := .captured } else tx := by
  cases v with
  | keep => simp [carry, Verdict.commits]
  | release message reason => simp [carry, releaseStuck, Store.audit, Store.updateMandate,
      Store.updateOperation, Verdict.commits]
  | commit orderId => simp [carry, commitStuck, Store.audit, Store.updateMandate,
      Store.updateOperation, Store.updateTransactions, Verdict.commits]

theorem carry_transactionsOf (id : String) :
    (carry v op s).1.transactionsOf id = (s.transactionsOf id).map fun tx =>
      if v.commits ∧ id = op.id then { tx with status := .captured } else tx := by
  unfold Store.transactionsOf
  rw [carry_transactions, List.filter_map]
  have hfilter : ((fun tx : Transaction => decide (tx.operationId = id)) ∘ fun tx =>
      if v.commits ∧ tx.operationId = op.id then { tx with status := .captured } else tx) =
        fun tx => decide (tx.operationId = id) := by
    funext tx
    show decide ((if _ then _ else tx : Transaction).operationId = id) = _
    split <;> rfl
  rw [hfilter]
  apply List.map_congr_left
  intro tx htx
  have hid : tx.operationId = id := by simpa using (List.mem_filter.mp htx).2
  rw [hid]

/-- What a verdict moves to the committed total of a mandate. -/
def committedTo (mandateId : String) : ℤ :=
  if op.mandateId = mandateId ∧ v.commits then op.amount else 0

theorem carry_mandate {id : String} {m : Mandate} (hm : s.mandates.find? id = some m) :
    ∃ m', (carry v op s).1.mandates.find? id = some m' ∧
      m'.currentAggregateSpend = m.currentAggregateSpend + committedTo v op id := by
  have hmove (f : Mandate → Mandate) (hf : ∀ m, Keyed.key (f m) = Keyed.key m) (dCommitted : ℤ)
      (hc : ∀ m, (f m).currentAggregateSpend = m.currentAggregateSpend + dCommitted) :
      ∃ m', (s.mandates.modify op.mandateId f hf).find? id = some m' ∧
        m'.currentAggregateSpend = m.currentAggregateSpend +
          if op.mandateId = id then dCommitted else 0 := by
    rw [Table.find?_modify]
    by_cases hid : id = op.mandateId
    · rw [if_pos hid, if_pos hid.symm, ← hid, hm]
      exact ⟨f m, rfl, hc m⟩
    · rw [if_neg hid, if_neg (Ne.symm hid)]
      exact ⟨m, hm, (add_zero _).symm⟩
  cases v with
  | keep => exact ⟨m, hm, by simp [committedTo, Verdict.commits]⟩
  | release message reason =>
    obtain ⟨m', hm', hc⟩ := hmove (Mandate.release op.amount) (fun _ => key_kept rfl) 0
      fun m => (add_zero _).symm
    exact ⟨m', hm', by simpa [committedTo, Verdict.commits] using hc⟩
  | commit orderId =>
    obtain ⟨m', hm', hc⟩ := hmove (Mandate.commitReserved op.amount) (fun _ => key_kept rfl)
      op.amount fun m => rfl
    exact ⟨m', hm', by simpa [committedTo, Verdict.commits] using hc⟩

theorem carry_mandates_isSome (id : String) :
    ((carry v op s).1.mandates.find? id).isSome = (s.mandates.find? id).isSome := by
  have hmove (f : Mandate → Mandate) (hf : ∀ m, Keyed.key (f m) = Keyed.key m) :
      ((s.mandates.modify op.mandateId f hf).find? id).isSome = (s.mandates.find? id).isSome := by
    rw [Table.find?_modify]
    by_cases hid : id = op.mandateId
    · rw [if_pos hid, Option.isSome_map, hid]
    · rw [if_neg hid]
  cases v with
  | keep => rfl
  | release message reason => exact hmove (Mandate.release op.amount) fun _ => key_kept rfl
  | commit orderId => exact hmove (Mandate.commitReserved op.amount) fun _ => key_kept rfl

theorem oneTransactionEach_carry (hone : OneTransactionEach s) :
    OneTransactionEach (carry v op s).1 := by
  intro id
  rw [carry_transactionsOf, List.length_map]
  exact hone id

/-- **No round changes a decision.** -/
theorem decision_carry (inputs : SweepInputs) (op' : FinancialOperation) :
    decision inputs (carry v op s).1 op' = decision inputs s op' := by
  unfold decision
  rw [carry_mandates_isSome]
  congr 1
  refine verdict_congr ?_ rfl rfl
  rw [carry_transactionsOf, List.head?_map, Option.map_map]
  congr 1
  funext tx
  show gatewayIds (if _ then _ else tx) = gatewayIds tx
  split <;> rfl

end Carry

/-! ### The loop -/

/-- Carrying out a decision about every operation of a list. -/
def carryAll (v : FinancialOperation → Verdict) :
    List FinancialOperation → Store → Store × List Event
  | [], s => (s, [])
  | op :: ops, s =>
    let first := carry (v op) op s
    let rest := carryAll v ops first.1
    (rest.1, first.2 ++ rest.2)

/-- **The loop carries out the decisions about the store it starts in.** -/
theorem reconcileOperations_decision {inputs : SweepInputs} {s : Store}
    (hone : OneTransactionEach s) (ops : List FinancialOperation) :
    reconcileOperations inputs ops s = .ok (carryAll (decision inputs s) ops s) := by
  induction ops generalizing s with
  | nil => rfl
  | cons op ops ih =>
    have hsame : decision inputs (carry (decision inputs s op) op s).1 = decision inputs s := by
      funext op'
      exact decision_carry _ _ _ _ _
    have hrest := ih (oneTransactionEach_carry (decision inputs s op) op s hone)
    rw [hsame] at hrest
    unfold reconcileOperations
    rw [reconcileOperation_decision hone]
    show (reconcileOperations inputs ops (carry (decision inputs s op) op s).1 >>= _) = _
    rw [hrest]
    rfl

section CarryAll

variable (v : FinancialOperation → Verdict)

/-- No round changes what a later sweep decides. -/
theorem decision_carryAll (ops : List FinancialOperation) (s : Store) (inputs : SweepInputs)
    (op : FinancialOperation) :
    decision inputs (carryAll v ops s).1 op = decision inputs s op := by
  induction ops generalizing s with
  | nil => rfl
  | cons op' ops ih => exact (ih _).trans (decision_carry _ _ _ _ _)

theorem oneTransactionEach_carryAll (ops : List FinancialOperation) {s : Store}
    (hone : OneTransactionEach s) : OneTransactionEach (carryAll v ops s).1 := by
  induction ops generalizing s with
  | nil => exact hone
  | cons op ops ih => exact ih (oneTransactionEach_carry _ _ _ hone)

/-- The loop posts what the verdicts post. -/
theorem carryAll_events (ops : List FinancialOperation) (s : Store) :
    (carryAll v ops s).2 = ops.flatMap fun op => postings (v op) op := by
  induction ops generalizing s with
  | nil => rfl
  | cons op ops ih =>
    rw [List.flatMap_cons, ← carry_events (v op) op s, ← ih (carry (v op) op s).1]
    rfl

/-- Operations the list does not name stay as they are. -/
theorem carryAll_operations_aside {ops : List FinancialOperation} {s : Store} {id : String}
    (hid : ∀ op ∈ ops, op.id ≠ id) :
    (carryAll v ops s).1.operations.find? id = s.operations.find? id ∧
      (carryAll v ops s).1.transactionsOf id = s.transactionsOf id := by
  induction ops generalizing s with
  | nil => exact ⟨rfl, rfl⟩
  | cons op ops ih =>
    have hne : id ≠ op.id := (hid op List.mem_cons_self).symm
    obtain ⟨hoperation, htransactions⟩ :=
      @ih (carry (v op) op s).1 fun op' hop' => hid op' (List.mem_cons_of_mem _ hop')
    refine ⟨hoperation.trans ?_, htransactions.trans ?_⟩
    · rw [carry_operations, if_neg hne]
    · rw [carry_transactionsOf]
      refine List.map_id'' (fun tx => ?_) _
      rw [if_neg fun hc => hne hc.2]

/-- An operation the list names once is settled as decided, and so is its transaction. -/
theorem carryAll_operations {ops : List FinancialOperation} {s : Store} {op : FinancialOperation}
    (hnodup : (ops.map FinancialOperation.id).Nodup) (hop : op ∈ ops) :
    (carryAll v ops s).1.operations.find? op.id =
        (s.operations.find? op.id).map (v op).settle ∧
      (carryAll v ops s).1.transactionsOf op.id = (s.transactionsOf op.id).map fun tx =>
        if (v op).commits then { tx with status := .captured } else tx := by
  induction ops generalizing s with
  | nil => cases hop
  | cons first ops ih =>
    rw [List.map_cons, List.nodup_cons] at hnodup
    rcases List.mem_cons.mp hop with rfl | hmem
    · have hnot : ∀ op' ∈ ops, op'.id ≠ op.id := by
        intro op' hop' he
        exact hnodup.1 (he ▸ List.mem_map_of_mem hop')
      obtain ⟨hoperation, htransactions⟩ :=
        @carryAll_operations_aside v ops (carry (v op) op s).1 op.id hnot
      refine ⟨hoperation.trans ?_, htransactions.trans ?_⟩
      · rw [carry_operations, if_pos rfl]
      · rw [carry_transactionsOf]
        simp only [and_true]
    · have hne : op.id ≠ first.id := fun he => hnodup.1 (he ▸ List.mem_map_of_mem hmem)
      obtain ⟨hoperation, htransactions⟩ := @ih (carry (v first) first s).1 hnodup.2 hmem
      refine ⟨hoperation.trans ?_, htransactions.trans ?_⟩
      · rw [carry_operations, if_neg hne]
      · rw [carry_transactionsOf, List.map_map]
        apply List.map_congr_left
        intro tx _
        have haside : ¬ ((v first).commits = true ∧ op.id = first.id) := fun hc => hne hc.2
        rw [Function.comp_apply, if_neg haside]

/-- The committed total of a mandate grows by what the verdicts move to it. -/
theorem carryAll_mandate {ops : List FinancialOperation} {s : Store} {id : String} {m : Mandate}
    (hm : s.mandates.find? id = some m) :
    ∃ m', (carryAll v ops s).1.mandates.find? id = some m' ∧
      m'.currentAggregateSpend = m.currentAggregateSpend +
        (ops.map fun op => committedTo (v op) op id).sum := by
  induction ops generalizing s m with
  | nil => exact ⟨m, hm, (add_zero _).symm⟩
  | cons op ops ih =>
    obtain ⟨m₁, hm₁, hc₁⟩ := carry_mandate (v op) op s hm
    obtain ⟨m', hm', hc'⟩ := ih hm₁
    refine ⟨m', hm', ?_⟩
    rw [hc', hc₁, List.map_cons, List.sum_cons, add_assoc]

/-- Where every verdict keeps, nothing happens. -/
theorem carryAll_keep {ops : List FinancialOperation} (s : Store)
    (hkeep : ∀ op ∈ ops, v op = .keep) : carryAll v ops s = (s, []) := by
  induction ops with
  | nil => rfl
  | cons op ops ih =>
    have hrest := ih fun op' hop' => hkeep op' (List.mem_cons_of_mem _ hop')
    rw [carryAll, hkeep op List.mem_cons_self]
    show ((carryAll v ops s).1, [] ++ (carryAll v ops s).2) = (s, [])
    rw [hrest]
    rfl

end CarryAll

end MandatePlane.SweepVerdicts

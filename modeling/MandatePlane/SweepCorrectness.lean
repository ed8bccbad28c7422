import MandatePlane.SettlementTotals
import MandatePlane.SweepVerdicts

/-!
# One sweep

The sweep selects its rows without an order, so it is taken over every order of them.
Each round does what was decided about its operation in the store the sweep began in, so
neither the order nor the other answers of the gateway matter to an operation, and a second
sweep with the same answers has only kept operations before it.
-/

namespace MandatePlane.SweepCorrectness

open DomainModel KeyedTable HoldLedger LabelledRun LedgerView HandlerPostings
open ReconciliationWorker SweepVerdicts SettlementTotals

/-- The sweep is about this operation: it is in flight, and not newer than the cutoff. -/
def Stuck (inputs : SweepInputs) (op : FinancialOperation) : Prop :=
  (op.status = .reserved ∨ op.status = .executing) ∧
    op.createdAt ≤ inputs.startedAt - microseconds inputs.timeoutSeconds

instance (inputs : SweepInputs) (op : FinancialOperation) : Decidable (Stuck inputs op) :=
  inferInstanceAs (Decidable (_ ∧ _))

/-- The sweep over its selected rows in a given order. -/
def sweepOver (inputs : SweepInputs) (ops : List FinancialOperation) (s : Store) :
    Except Refusal (Committed ℕ) := do
  let swept ← reconcileOperations inputs ops s
  return ⟨swept.2.length, swept.1, swept.2⟩

theorem reconcileStuckReservations_eq (inputs : SweepInputs) (s : Store) :
    reconcileStuckReservations inputs s = sweepOver inputs (stuckOperations inputs s) s := rfl

theorem stuckOperations_eq (inputs : SweepInputs) (s : Store) :
    stuckOperations inputs s = s.operations.rows.filter fun op => Stuck inputs op := by
  refine List.filter_congr fun op _ => Bool.eq_iff_iff.mpr ?_
  rw [decide_eq_true_iff]
  simp [Stuck, OperationStatus.inFlight]

def orderPaid : Except String RazorpayClient.RazorpayOrderResponse → Bool
  | .ok order => order.status = "paid"
  | .error _ => false

/-- The operation has an order, and the gateway answers that it is paid. -/
def paid (inputs : SweepInputs) (s : Store) (op : FinancialOperation) : Bool :=
  match s.transactionsOf op.id with
  | [tx] => !noId tx.gatewayOrderId && orderPaid (inputs.fetchOrder op.id)
  | _ => false

variable {inputs inputs' : SweepInputs} {s : Store} {op : FinancialOperation}
  {ops ops' : List FinancialOperation}

theorem sweepOver_eq (hone : OneTransactionEach s) (ops : List FinancialOperation) :
    sweepOver inputs ops s = .ok ⟨(carryAll (decision inputs s) ops s).2.length,
      (carryAll (decision inputs s) ops s).1, (carryAll (decision inputs s) ops s).2⟩ := by
  rw [sweepOver, reconcileOperations_decision hone]
  rfl

theorem mem_stuckOperations : op ∈ stuckOperations inputs s ↔
    op ∈ s.operations.rows ∧ op.status.inFlight = true ∧
      op.createdAt ≤ inputs.startedAt - microseconds inputs.timeoutSeconds := by
  simp [stuckOperations]

theorem stuckOperations_nodup : ((stuckOperations inputs s).map FinancialOperation.id).Nodup :=
  (List.Sublist.map _ List.filter_sublist).nodup s.operations.nodup

/-! ### The decisions -/

theorem verdict_commits (inputs : SweepInputs) (op : FinancialOperation) (tx : Transaction) :
    (verdict inputs op (some tx)).commits =
      (!noId tx.gatewayOrderId && orderPaid (inputs.fetchOrder op.id)) := by
  unfold verdict
  cases horder : tx.gatewayOrderId with
  | none =>
    rw [show (some tx).bind Transaction.gatewayOrderId = none from horder]
    split <;> rfl
  | some orderId =>
    rw [show (some tx).bind Transaction.gatewayOrderId = some orderId from horder]
    by_cases hempty : orderId.isEmpty = true
    · rw [show noId (some orderId) = true from hempty]
      split
      · rfl
      · dsimp only
        rw [if_pos hempty]
        rfl
    · have hid : noId (some orderId) = false := Bool.not_eq_true _ ▸ hempty
      have hdispatched : ¬ undispatched (some tx) = true := by simp [undispatched, horder, hid]
      rw [if_neg hdispatched, hid]
      dsimp only
      rw [if_neg hempty]
      cases inputs.fetchOrder op.id with
      | error _ => rfl
      | ok order =>
        show Verdict.commits (if order.status = "paid" then _ else _) =
          decide (order.status = "paid")
        by_cases hpaid : order.status = "paid"
        · rw [if_pos hpaid, decide_eq_true hpaid]
          rfl
        · rw [if_neg hpaid, decide_eq_false hpaid]
          split <;> rfl

/-- The worker commits the operations whose order is paid. -/
theorem decision_commits (hone : OneTransactionEach s)
    (hmandate : (s.mandates.find? op.mandateId).isSome = true) :
    (decision inputs s op).commits = paid inputs s op := by
  rw [decision, if_pos hmandate, paid]
  rcases nil_or_singleton (hone op.id) with hrows | ⟨tx, hrows⟩
  · rw [hrows]
    rfl
  · rw [hrows]
    exact verdict_commits inputs op tx

/-! ### The sums -/

/-- A status write of a sweep keeps the held totals, whether or not the mandate is there. -/
theorem heldTotals_swept {L : Books} {e : Event} (ht : HeldTotals L) (hr : EventRule L e)
    (hflight : op.status.inFlight = true) (he : SweptEvent op e) :
    HeldTotals (eventBook.next L e) := by
  have hpost {target : OperationStatus} {dCommitted : ℤ}
      (hfind : L.holds.find? op.id = some (operationHold op)) (htarget : target.inFlight = false) :
      HeldTotals (L.enter (.post op.id op.mandateId target (-op.amount) dCommitted)) := by
    refine heldTotals_post (h := operationHold op) ht hfind fun _ _ => ?_
    have hbefore : heldPart op.mandateId (operationHold op) = op.amount := if_pos ⟨rfl, hflight⟩
    have hafter : heldPart op.mandateId ((operationHold op).moveTo target) = 0 := by
      refine if_neg fun hc => ?_
      have hc2 : target.inFlight = true := hc.2
      rw [htarget] at hc2
      cases hc2
    show -op.amount = heldPart op.mandateId ((operationHold op).moveTo target) -
      heldPart op.mandateId (operationHold op)
    rw [hbefore, hafter, zero_sub]
  rcases he with rfl | rfl
  · exact hpost hr.1 rfl
  · exact hpost hr.1 rfl

/-- The loop keeps the reserved totals. -/
theorem reservedTotals_reconcileOperations {done : Store × List Event}
    (hops : ops.Perm (stuckOperations inputs s)) (ht : ReservedTotals s)
    (hdone : reconcileOperations inputs ops s = .ok done) : ReservedTotals done.1 := by
  have hnodup : (ops.map FinancialOperation.id).Nodup :=
    (hops.map _).nodup_iff.mpr stuckOperations_nodup
  have hflight : ∀ op ∈ ops, op.status.inFlight = true :=
    fun op hop => (mem_stuckOperations.mp (hops.mem_iff.mp hop)).2.1
  have hholds : ∀ op ∈ ops, (ledger s).holds.find? op.id = some (operationHold op) := by
    intro op hop
    have hfind : s.operations.find? op.id = some op :=
      Table.find?_of_mem (mem_stuckOperations.mp (hops.mem_iff.mp hop)).1
    rw [holds_find?, hfind]
    rfl
  obtain ⟨hexplained, -⟩ :=
    reconcileOperations_explained hdone hnodup fun op hop => ⟨hholds op hop, hflight op hop⟩
  have hswept : eventBook.Along
      (fun _ e => ∃ op, op.status.inFlight = true ∧ SweptEvent op e) (ledger s) done.2 := by
    apply Machine.along_of_forall
    intro e he L
    obtain ⟨op, hop, hsame⟩ := reconcileOperations_events hdone e he
    exact ⟨op, hflight op hop, hsame⟩
  rw [reservedTotals_iff] at ht ⊢
  rw [hexplained.books]
  refine Machine.inv_run ?_ ht (Machine.along_and hexplained.ruled hswept)
  intro L e ht hr
  obtain ⟨op, hinFlight, hsame⟩ := hr.2
  exact heldTotals_swept ht hr.1 hinFlight hsame

/-- What the paid orders among the stuck operations of a mandate come to. -/
def paidTotal (inputs : SweepInputs) (s : Store) (mandateId : String) : ℤ :=
  ((s.operations.rows.filter fun op => Stuck inputs op).map fun op =>
    if op.mandateId = mandateId ∧ paid inputs s op = true then op.amount else 0).sum

/-- The loop commits the paid orders. -/
theorem committed_carryAll (hone : OneTransactionEach s)
    (hops : ops.Perm (stuckOperations inputs s)) {m : Mandate} (hm : m ∈ s.mandates.rows) :
    ∃ m', (carryAll (decision inputs s) ops s).1.mandates.find? m.id = some m' ∧
      m'.currentAggregateSpend = m.currentAggregateSpend + paidTotal inputs s m.id := by
  have hfind : s.mandates.find? m.id = some m := Table.find?_of_mem hm
  obtain ⟨m', hm', hc⟩ := @carryAll_mandate (decision inputs s) ops s m.id m hfind
  refine ⟨m', hm', hc.trans ?_⟩
  congr 1
  refine ((hops.map _).sum_eq).trans ?_
  rw [paidTotal, stuckOperations_eq]
  congr 1
  apply List.map_congr_left
  intro op _
  unfold committedTo
  by_cases hid : op.mandateId = m.id
  · have hsome : (s.mandates.find? op.mandateId).isSome = true := by
      rw [hid, hfind]
      rfl
    rw [decision_commits hone hsome]
  · rw [if_neg fun hc => hid hc.1, if_neg fun hc => hid hc.1]

/-! ### The operations -/

/-- Two sweeps that select alike and meet the same answer and the same clock at an operation. -/
structure AgreeAt (inputs inputs' : SweepInputs) (op : FinancialOperation) : Prop where
  timeout : inputs'.timeoutSeconds = inputs.timeoutSeconds
  started : inputs'.startedAt = inputs.startedAt
  checked : inputs'.checkedAt op.id = inputs.checkedAt op.id
  fetched : inputs'.fetchOrder op.id = inputs.fetchOrder op.id

theorem AgreeAt.decision (h : AgreeAt inputs inputs' op) (s : Store) :
    decision inputs' s op = SweepVerdicts.decision inputs s op := by
  unfold SweepVerdicts.decision
  rw [verdict_congr rfl h.fetched h.checked]

/-- What a sweep that selects an operation leaves of it and of its transaction. -/
theorem carryAll_selected (hops : ops.Perm (stuckOperations inputs s))
    (hop : op ∈ stuckOperations inputs s) (v : FinancialOperation → Verdict) :
    (carryAll v ops s).1.operations.find? op.id = some ((v op).settle op) ∧
      (carryAll v ops s).1.transactionsOf op.id = (s.transactionsOf op.id).map fun tx =>
        if (v op).commits then { tx with status := .captured } else tx := by
  have hnodup : (ops.map FinancialOperation.id).Nodup :=
    (hops.map _).nodup_iff.mpr stuckOperations_nodup
  have hfind : s.operations.find? op.id = some op :=
    Table.find?_of_mem (mem_stuckOperations.mp hop).1
  obtain ⟨hoperation, htransactions⟩ := carryAll_operations v (s := s) hnodup (hops.mem_iff.mpr hop)
  rw [hfind] at hoperation
  exact ⟨hoperation, htransactions⟩

/-- A sweep leaves what it does not select. -/
theorem carryAll_unselected (hops : ops.Perm (stuckOperations inputs s))
    (hm : op ∈ s.operations.rows) (hop : op ∉ stuckOperations inputs s)
    (v : FinancialOperation → Verdict) :
    (carryAll v ops s).1.operations.find? op.id = some op ∧
      (carryAll v ops s).1.transactionsOf op.id = s.transactionsOf op.id := by
  have haside : ∀ op' ∈ ops, op'.id ≠ op.id := by
    intro op' hop' he
    have hsel := hops.mem_iff.mp hop'
    have hsame : op' = op := Table.eq_of_key_eq (mem_stuckOperations.mp hsel).1 hm he
    exact hop (hsame ▸ hsel)
  have hfind : s.operations.find? op.id = some op := Table.find?_of_mem hm
  obtain ⟨hoperation, htransactions⟩ := carryAll_operations_aside v (s := s) haside
  exact ⟨hoperation.trans hfind, htransactions⟩

/-- **The same outcome.**  Sweeps that agree at an operation leave it and its transaction alike,
whatever they meet elsewhere and in whatever order they go. -/
theorem carryAll_agree (hops : ops.Perm (stuckOperations inputs s))
    (hops' : ops'.Perm (stuckOperations inputs' s)) (hm : op ∈ s.operations.rows)
    (hagree : AgreeAt inputs inputs' op) :
    (carryAll (decision inputs' s) ops' s).1.operations.find? op.id =
        (carryAll (decision inputs s) ops s).1.operations.find? op.id ∧
      (carryAll (decision inputs' s) ops' s).1.transactionsOf op.id =
        (carryAll (decision inputs s) ops s).1.transactionsOf op.id := by
  have hselected : op ∈ stuckOperations inputs' s ↔ op ∈ stuckOperations inputs s := by
    rw [mem_stuckOperations, mem_stuckOperations, hagree.timeout, hagree.started]
  by_cases hop : op ∈ stuckOperations inputs s
  · obtain ⟨hoperation, htransactions⟩ := carryAll_selected hops hop (decision inputs s)
    obtain ⟨hoperation', htransactions'⟩ :=
      carryAll_selected hops' (hselected.mpr hop) (decision inputs' s)
    rw [hagree.decision] at hoperation' htransactions'
    exact ⟨hoperation'.trans hoperation.symm, htransactions'.trans htransactions.symm⟩
  · obtain ⟨hoperation, htransactions⟩ := carryAll_unselected hops hm hop (decision inputs s)
    obtain ⟨hoperation', htransactions'⟩ :=
      carryAll_unselected hops' hm (fun h => hop (hselected.mp h)) (decision inputs' s)
    exact ⟨hoperation'.trans hoperation.symm, htransactions'.trans htransactions.symm⟩

/-- What a sweep leaves to the next one with the same answers and clock, it has decided to keep. -/
theorem decision_left (hops : ops.Perm (stuckOperations inputs s))
    (hleft : op ∈ stuckOperations inputs (carryAll (decision inputs s) ops s).1) :
    op ∈ stuckOperations inputs s ∧ decision inputs s op = .keep := by
  obtain ⟨hm, hflight, hold⟩ := mem_stuckOperations.mp hleft
  have hfind : (carryAll (decision inputs s) ops s).1.operations.find? op.id = some op :=
    Table.find?_of_mem hm
  by_cases hex : ∃ op₀ ∈ ops, op₀.id = op.id
  · obtain ⟨op₀, hop₀, hid⟩ := hex
    obtain ⟨hoperation, -⟩ := carryAll_selected hops (hops.mem_iff.mp hop₀) (decision inputs s)
    rw [hid, hfind, Option.some.injEq] at hoperation
    cases hdecision : decision inputs s op₀ with
    | keep =>
      rw [hdecision] at hoperation
      have hsame : op = op₀ := hoperation
      rw [hsame]
      exact ⟨hops.mem_iff.mp hop₀, hdecision⟩
    | release message reason =>
      rw [hdecision] at hoperation
      rw [hoperation] at hflight
      cases hflight
    | commit orderId =>
      rw [hdecision] at hoperation
      rw [hoperation] at hflight
      cases hflight
  · exfalso
    have haside : ∀ op₀ ∈ ops, op₀.id ≠ op.id := fun op₀ hop₀ he => hex ⟨op₀, hop₀, he⟩
    obtain ⟨hoperation, -⟩ := carryAll_operations_aside (decision inputs s) (s := s) haside
    rw [hfind] at hoperation
    have hbefore : op ∈ s.operations.rows := Table.mem_of_find? hoperation.symm
    have hsel := mem_stuckOperations.mpr ⟨hbefore, hflight, hold⟩
    exact hex ⟨op, hops.mem_iff.mpr hsel, rfl⟩

/-- **A sweep is correct.**  Where every operation has at most one transaction and every
`reserved_spend` is the sum of the amounts in flight, a sweep over its rows in any order completes
and keeps the sums; it commits exactly the stuck operations whose order is paid, leaves what is
not in flight or newer than the cutoff, does to an operation what any sweep does that agrees at
this operation, and leaves nothing for a second sweep with the same answers and clock. -/
theorem sweep_correct (inputs : SweepInputs) (s : Store) (hone : OneTransactionEach s)
    (htotals : ReservedTotals s) (ops : List FinancialOperation)
    (hops : ops.Perm (s.operations.rows.filter fun op => Stuck inputs op)) :
    ∃ c, sweepOver inputs ops s = .ok c ∧ ReservedTotals c.store ∧
      (∀ m ∈ s.mandates.rows, ∃ m', c.store.mandates.find? m.id = some m' ∧
        m'.currentAggregateSpend = m.currentAggregateSpend + paidTotal inputs s m.id) ∧
      (∀ op ∈ s.operations.rows, ¬ Stuck inputs op →
        c.store.operations.find? op.id = some op ∧
          c.store.transactionsOf op.id = s.transactionsOf op.id) ∧
      (∀ inputs' ops', ops'.Perm (s.operations.rows.filter fun op => Stuck inputs' op) →
        ∃ c', sweepOver inputs' ops' s = .ok c' ∧
          ∀ op ∈ s.operations.rows, AgreeAt inputs inputs' op →
            c'.store.operations.find? op.id = c.store.operations.find? op.id ∧
              c'.store.transactionsOf op.id = c.store.transactionsOf op.id) ∧
      ∀ ops', ops'.Perm (c.store.operations.rows.filter fun op => Stuck inputs op) →
        sweepOver inputs ops' c.store = .ok ⟨0, c.store, []⟩ := by
  rw [← stuckOperations_eq] at hops
  refine ⟨_, sweepOver_eq hone ops, ?_, ?_, ?_, ?_, ?_⟩
  · exact reservedTotals_reconcileOperations hops htotals (reconcileOperations_decision hone ops)
  · intro m hm
    exact committed_carryAll hone hops hm
  · intro op hm hout
    refine carryAll_unselected hops hm (fun hsel => hout ?_) (decision inputs s)
    rw [stuckOperations_eq, List.mem_filter] at hsel
    exact of_decide_eq_true hsel.2
  · intro inputs' ops' hops'
    rw [← stuckOperations_eq] at hops'
    exact ⟨_, sweepOver_eq hone ops', fun op hm hagree => carryAll_agree hops hops' hm hagree⟩
  · intro ops' hops'
    rw [← stuckOperations_eq] at hops'
    have hkeep : ∀ op ∈ ops',
        decision inputs (carryAll (decision inputs s) ops s).1 op = .keep := by
      intro op hop
      rw [decision_carryAll]
      exact (decision_left hops (hops'.mem_iff.mp hop)).2
    rw [sweepOver_eq (oneTransactionEach_carryAll _ ops hone), carryAll_keep _ _ hkeep]
    rfl

/-- A sweep long after the first order, which the gateway reports as paid. -/
def sweepA : SweepInputs where
  timeoutSeconds := 120
  startedAt := microseconds 3600
  checkedAt _ := microseconds 3600
  fetchOrder _ := .ok ⟨"order_A", 600, "INR", "paid"⟩

/-- The first order in flight. -/
def inFlightA : Store :=
  (ControlPlane.controlPlane ControlPlane.Sample.platform ControlPlane.Sample.settings).run
    ControlPlane.Sample.store [ControlPlane.Sample.requestA]

/-- The first order in flight, swept twice: the first sweep commits its amount. -/
theorem sweep_correct_sweepA :
    ∃ c, reconcileStuckReservations sweepA inFlightA = .ok c ∧
      ReservedTotals c.store ∧
      (∀ m ∈ inFlightA.mandates.rows, ∃ m', c.store.mandates.find? m.id = some m' ∧
        m'.currentAggregateSpend = m.currentAggregateSpend + 600) ∧
      reconcileStuckReservations sweepA c.store = .ok ⟨0, c.store, []⟩ := by
  have hone : OneTransactionEach inFlightA := by
    intro id
    refine (List.length_filter_le _ _).trans (Nat.le_of_eq ?_)
    decide +kernel
  have htotals : ReservedTotals inFlightA := by
    unfold ReservedTotals
    decide +kernel
  have hpaid : ∀ m ∈ inFlightA.mandates.rows, paidTotal sweepA inFlightA m.id = 600 := by
    decide +kernel
  obtain ⟨c, hc, hkept, hcommitted, -, -, hagain⟩ :=
    sweep_correct sweepA inFlightA hone htotals _ (.refl _)
  refine ⟨c, ?_, hkept, fun m hm => ?_, ?_⟩
  · rw [reconcileStuckReservations_eq, stuckOperations_eq]
    exact hc
  · have hm' := hcommitted m hm
    rw [hpaid m hm] at hm'
    exact hm'
  · rw [reconcileStuckReservations_eq, stuckOperations_eq]
    exact hagain _ (.refl _)

end MandatePlane.SweepCorrectness

import MandatePlane.JoinedRows
import MandatePlane.ControlPlane

/-!
# The read-only gateway reconciliation

`run_gateway_reconciliation` compares the transactions of recent operations with the
gateway's orders and persists a report of what differs.  It promises three kinds of
discrepancy.  It joins operations with their transactions and skips rows without an order,
so that two of the kinds are reported and an orphan reservation is not.
-/

namespace MandatePlane.GatewayReconciliation

open DomainModel KeyedTable RazorpayClient ReconciliationWorker JoinedRows

/-! ### The worker -/

/-- An entry of the report.  The two are the `type`s the code writes. -/
inductive Discrepancy where
  | missedWebhookPaidOrder (operationId orderId mandateStatus gatewayStatus : String)
      (amountPaise : ℤ)
  | amountMismatch (operationId orderId : String) (mandateAmount gatewayAmount : ℤ)

structure ReconciliationResult where
  totalChecked : ℕ
  discrepancies : List Discrepancy
  syncedCount : ℕ

structure ReconciliationReport where
  reportId : String
  totalAudited : ℕ
  inconsistenciesDetected : ℕ
  details : ReconciliationResult

/-- The store with the persisted reports. -/
structure ReportedStore where
  store : Store
  reports : List ReconciliationReport

/-- One reconciliation: the clock, the window in minutes, the fresh report id, and the answer of
`fetch_order` for each order. -/
structure ReconciliationInputs where
  now : ℤ
  lookbackMinutes : ℤ
  reportId : String
  fetchOrder : String → Except String RazorpayOrderResponse

/-- `datetime.now(UTC) - timedelta(minutes=lookback_minutes)`. -/
def cutoff (inputs : ReconciliationInputs) : ℤ :=
  inputs.now - microseconds (inputs.lookbackMinutes * 60)

def inWindow (inputs : ReconciliationInputs) (op : FinancialOperation) : Bool :=
  cutoff inputs ≤ op.createdAt

/-- The transactions joined with their operations, those of the window. -/
def records (inputs : ReconciliationInputs) (s : Store) : List (Transaction × FinancialOperation) :=
  (join s.operations Transaction.operationId s.transactions).filter fun row =>
    inWindow inputs row.2

/-- What the answer for one row is compared with. -/
def compareOrder (op : FinancialOperation) (orderId : String) (rzpOrder : RazorpayOrderResponse) :
    List Discrepancy :=
  (if rzpOrder.status = "paid" ∧ op.status ≠ .succeeded then
    [.missedWebhookPaidOrder op.operationId orderId op.status.value rzpOrder.status op.amount]
    else []) ++
  (if rzpOrder.amount ≠ op.amount then
    [.amountMismatch op.operationId orderId op.amount rzpOrder.amount] else [])

/-- One round of the loop.  A fetch that raises is logged. -/
def checkRecord (fetchOrder : String → Except String RazorpayOrderResponse)
    (row : Transaction × FinancialOperation) : List Discrepancy :=
  match PolicyEngine.truthyId row.1.gatewayOrderId with
  | none => []
  | some orderId =>
    match fetchOrder orderId with
    | .error _ => []
    | .ok rzpOrder => compareOrder row.2 orderId rzpOrder

/-- The loop of `_perform_reconciliation_on_session`. -/
def reconcile (inputs : ReconciliationInputs) (s : Store) : ReconciliationResult where
  totalChecked := (records inputs s).length
  discrepancies := (records inputs s).flatMap (checkRecord inputs.fetchOrder)
  syncedCount := 0

/-- `run_gateway_reconciliation`. -/
def runGatewayReconciliation (inputs : ReconciliationInputs) (d : ReportedStore) :
    ReconciliationResult × ReportedStore :=
  let result := reconcile inputs d.store
  (result, { d with reports := d.reports ++
    [{ reportId := inputs.reportId
       totalAudited := result.totalChecked
       inconsistenciesDetected := result.discrepancies.length
       details := result }] })

/-! ### What the report promises -/

/-- The kinds of discrepancy that the docstring lists. -/
inductive Kind where
  | missedWebhook | orphanReservation | amountMismatch
  deriving DecidableEq

namespace Discrepancy

def kind : Discrepancy → Kind
  | missedWebhookPaidOrder _ _ _ _ _ => .missedWebhook
  | amountMismatch _ _ _ _ => .amountMismatch

def operationId : Discrepancy → String
  | missedWebhookPaidOrder operationId _ _ _ _ => operationId
  | amountMismatch operationId _ _ _ => operationId

def orderId : Discrepancy → String
  | missedWebhookPaidOrder _ orderId _ _ _ => orderId
  | amountMismatch _ orderId _ _ => orderId

/-- An entry of one kind about the operations with one public id. -/
def about (kind : Kind) (operationId : String) (d : Discrepancy) : Bool :=
  d.kind = kind && d.operationId = operationId

end Discrepancy

/-- The gateway's answer for the transaction's order shows the discrepancy. -/
def shows (fetchOrder : String → Except String RazorpayOrderResponse) (kind : Kind)
    (op : FinancialOperation) (tx : Transaction) : Bool :=
  match PolicyEngine.truthyId tx.gatewayOrderId with
  | none => false
  | some orderId =>
    match fetchOrder orderId with
    | .error _ => false
    | .ok order =>
      match kind with
      | .missedWebhook => order.status = "paid" && op.status ≠ .succeeded
      | .amountMismatch => order.amount ≠ op.amount
      | .orphanReservation => false

/-- RESERVED, and no transaction has a gateway order. -/
def orphan (s : Store) (op : FinancialOperation) : Bool :=
  op.status = .reserved &&
    (s.transactionsOf op.id).all fun tx => (PolicyEngine.truthyId tx.gatewayOrderId).isNone

/-- The operation has a discrepancy of the kind. -/
def discrepant (fetchOrder : String → Except String RazorpayOrderResponse) (s : Store)
    (kind : Kind) (op : FinancialOperation) : Bool :=
  match kind with
  | .orphanReservation => orphan s op
  | kind => (s.transactionsOf op.id).any (shows fetchOrder kind op)

/-- **A faithful report**: operations, transactions and mandates stay as they are, the persisted
report has one entry for each operation of the window and each kind of discrepancy that it has,
and a fetch that fails takes away the entries about its own order only. -/
structure Faithful (inputs : ReconciliationInputs) (d : ReportedStore) : Prop where
  readOnly : (runGatewayReconciliation inputs d).2.store = d.store
  persisted : ∃ report, (runGatewayReconciliation inputs d).2.reports = d.reports ++ [report] ∧
    report.details = (runGatewayReconciliation inputs d).1
  complete : ∀ kind operationId,
    (runGatewayReconciliation inputs d).1.discrepancies.countP
        (Discrepancy.about kind operationId) =
      d.store.operations.rows.countP fun op => op.operationId = operationId && inWindow inputs op &&
        discrepant inputs.fetchOrder d.store kind op
  isolated : ∀ orderId text,
    (runGatewayReconciliation { inputs with
        fetchOrder := Function.update inputs.fetchOrder orderId (.error text) } d).1.discrepancies =
      (runGatewayReconciliation inputs d).1.discrepancies.filter fun e => e.orderId ≠ orderId

/-! ### What the report contains -/

section Report

variable {inputs : ReconciliationInputs} {s : Store} {d : ReportedStore}

theorem countP_ite_singleton {α : Type} (c : Prop) [Decidable c] (a : α) (p : α → Bool) :
    (if c then [a] else []).countP p = (c && p a).toNat := by
  by_cases hc : c
  · cases hp : p a with
    | true => simp [hc, hp]
    | false => simp [hc, hp]
  · simp [hc]

/-- The entries about one row: one for each kind that the gateway's answer shows. -/
theorem countP_checkRecord (fetchOrder : String → Except String RazorpayOrderResponse)
    (row : Transaction × FinancialOperation) (kind : Kind) (operationId : String) :
    (checkRecord fetchOrder row).countP (Discrepancy.about kind operationId) =
      (row.2.operationId = operationId && shows fetchOrder kind row.2 row.1).toNat := by
  unfold checkRecord shows
  cases PolicyEngine.truthyId row.1.gatewayOrderId with
  | none => simp
  | some orderId =>
    dsimp only
    cases hfetch : fetchOrder orderId with
    | error text => simp
    | ok order =>
      simp only [compareOrder, List.countP_append, countP_ite_singleton]
      cases kind with
      | missedWebhook =>
        simp only [Discrepancy.about, Discrepancy.kind, Discrepancy.operationId, Bool.decide_and,
          decide_true, decide_false, reduceCtorEq, Bool.true_and, Bool.false_and, Bool.and_false,
          Bool.toNat_false, Nat.add_zero]
        rw [Bool.and_comm]
        rfl
      | orphanReservation => simp [Discrepancy.about, Discrepancy.kind]
      | amountMismatch =>
        simp only [Discrepancy.about, Discrepancy.kind, Discrepancy.operationId, Bool.decide_and,
          decide_true, decide_false, reduceCtorEq, Bool.true_and, Bool.false_and, Bool.and_false,
          Bool.toNat_false, Nat.zero_add]
        rw [Bool.and_comm]
        rfl

/-- Where each element gives one entry or none, counting entries is counting elements. -/
theorem countP_flatMap_of_toNat {α β : Type} (xs : List α) (f : α → List β) (p : β → Bool)
    (q : α → Bool) (h : ∀ x, (f x).countP p = (q x).toNat) :
    (xs.flatMap f).countP p = xs.countP q := by
  induction xs with
  | nil => rfl
  | cons x xs ih =>
    rw [List.flatMap_cons, List.countP_append, List.countP_cons, ih, h, Nat.add_comm]
    cases q x with
    | true => rfl
    | false => rfl

/-- The transactions of the operation that show the discrepancy. -/
def showing (fetchOrder : String → Except String RazorpayOrderResponse) (s : Store) (kind : Kind)
    (op : FinancialOperation) : ℕ :=
  (s.transactionsOf op.id).countP (shows fetchOrder kind op)

/-- **The report has one entry for each transaction that shows a discrepancy**, operation by
operation. -/
theorem countP_discrepancies (kind : Kind) (operationId : String) :
    (reconcile inputs s).discrepancies.countP (Discrepancy.about kind operationId) =
      s.operations.sum fun op =>
        if op.operationId = operationId && inWindow inputs op then
          showing inputs.fetchOrder s kind op else 0 := by
  unfold reconcile records
  dsimp only
  rw [countP_flatMap_of_toNat _ _ _ _ fun row => countP_checkRecord inputs.fetchOrder row kind
    operationId, List.countP_filter]
  have hjoin := countP_join s.operations Transaction.operationId s.transactions fun tx op =>
    (op.operationId = operationId && shows inputs.fetchOrder kind op tx) && inWindow inputs op
  rw [hjoin]
  refine Table.sum_congr fun op _ => ?_
  show (s.transactionsOf op.id).countP _ = _
  by_cases hop : op.operationId = operationId
  · cases hwindow : inWindow inputs op with
    | true => simp [hop, showing]
    | false => simp
  · simp [hop]

/-- An operation has a discrepancy of the kinds that orders show where some transaction shows it. -/
theorem discrepant_iff {kind : Kind} (hkind : kind ≠ .orphanReservation)
    (fetchOrder : String → Except String RazorpayOrderResponse) (op : FinancialOperation) :
    discrepant fetchOrder s kind op = true ↔ 0 < showing fetchOrder s kind op := by
  have hany : discrepant fetchOrder s kind op =
      (s.transactionsOf op.id).any (shows fetchOrder kind op) := by
    cases kind with
    | missedWebhook => rfl
    | orphanReservation => exact absurd rfl hkind
    | amountMismatch => rfl
  rw [hany, showing, List.countP_pos_iff, List.any_eq_true]

/-- There are at least as many transactions that show it as there should be entries. -/
theorem toNat_discrepant_le {kind : Kind} (hkind : kind ≠ .orphanReservation)
    (fetchOrder : String → Except String RazorpayOrderResponse) (op : FinancialOperation) :
    (discrepant fetchOrder s kind op).toNat ≤ showing fetchOrder s kind op := by
  cases hcase : discrepant fetchOrder s kind op with
  | false => exact Nat.zero_le _
  | true => exact (discrepant_iff hkind fetchOrder op).mp hcase

/-- No transaction shows an orphan reservation. -/
theorem showing_orphan (fetchOrder : String → Except String RazorpayOrderResponse)
    (op : FinancialOperation) : showing fetchOrder s .orphanReservation op = 0 := by
  unfold showing
  rw [List.countP_eq_zero]
  intro tx _
  unfold shows
  split
  · simp
  · split
    · simp
    · simp

/-- One entry for each discrepancy of an operation: it is no orphan, and no two of its
transactions show the same. -/
theorem showing_eq_iff (fetchOrder : String → Except String RazorpayOrderResponse)
    (op : FinancialOperation) :
    (∀ kind, showing fetchOrder s kind op = (discrepant fetchOrder s kind op).toNat) ↔
      orphan s op = false ∧ ∀ kind, showing fetchOrder s kind op ≤ 1 := by
  constructor
  · intro h
    refine ⟨?_, fun kind => ?_⟩
    · have horphan := h .orphanReservation
      rw [showing_orphan] at horphan
      exact Bool.toNat_eq_zero.mp horphan.symm
    · rw [h kind]
      exact Bool.toNat_le _
  · intro ⟨horphan, hone⟩ kind
    by_cases hkind : kind = .orphanReservation
    · subst hkind
      rw [showing_orphan]
      exact (Bool.toNat_eq_zero.mpr horphan).symm
    · have hiff := discrepant_iff (s := s) hkind fetchOrder op
      have hle := hone kind
      cases hcase : discrepant fetchOrder s kind op with
      | false =>
        rw [hcase] at hiff
        show showing fetchOrder s kind op = 0
        simp only [Bool.false_eq_true, false_iff] at hiff
        omega
      | true =>
        show showing fetchOrder s kind op = 1
        have hpos := hiff.mp hcase
        omega

/-- The entries there should be, summed over the operations. -/
theorem countP_discrepant (kind : Kind) (operationId : String) :
    (s.operations.rows.countP fun op => op.operationId = operationId && inWindow inputs op &&
      discrepant inputs.fetchOrder s kind op) =
      s.operations.sum fun op => if op.operationId = operationId && inWindow inputs op then
        (discrepant inputs.fetchOrder s kind op).toNat else 0 := by
  rw [countP_rows]
  refine Table.sum_congr fun op _ => ?_
  cases hrow : decide (op.operationId = operationId) && inWindow inputs op with
  | false => simp
  | true =>
    cases discrepant inputs.fetchOrder s kind op with
    | false => simp
    | true => simp

/-- **The report is complete exactly where every operation of the window is no orphan and shows
no discrepancy twice.** -/
theorem complete_iff :
    (∀ kind operationId, (reconcile inputs s).discrepancies.countP
        (Discrepancy.about kind operationId) =
      s.operations.rows.countP fun op => op.operationId = operationId && inWindow inputs op &&
        discrepant inputs.fetchOrder s kind op) ↔
      ∀ op ∈ s.operations.rows, inWindow inputs op = true →
        orphan s op = false ∧ ∀ kind, showing inputs.fetchOrder s kind op ≤ 1 := by
  simp only [countP_discrepancies, countP_discrepant, ← showing_eq_iff]
  constructor
  · intro h op hop hwindow kind
    have hselected : (decide (op.operationId = op.operationId) && inWindow inputs op) = true := by
      simp [hwindow]
    have hsum := h kind op.operationId
    by_cases hkind : kind = .orphanReservation
    · subst hkind
      rw [sum_eq_sum_iff] at hsum
      · have hrow := hsum op hop
        rwa [if_pos hselected, if_pos hselected] at hrow
      · intro r _
        rw [showing_orphan, ite_self]
        exact Nat.zero_le _
    · have hrow := (sum_eq_sum_iff fun r _ => ?_).mp hsum.symm op hop
      · rw [if_pos hselected, if_pos hselected] at hrow
        exact hrow.symm
      · split
        · exact toNat_discrepant_le hkind inputs.fetchOrder r
        · exact le_rfl
  · intro h kind operationId
    refine Table.sum_congr fun op hop => ?_
    cases hrow : decide (op.operationId = operationId) && inWindow inputs op with
    | false => simp
    | true =>
      rw [Bool.and_eq_true] at hrow
      simpa using h op hop hrow.2 kind

/-- The entries of one row are about its order. -/
theorem orderId_of_compareOrder {op : FinancialOperation} {orderId : String}
    {rzpOrder : RazorpayOrderResponse} {e : Discrepancy}
    (h : e ∈ compareOrder op orderId rzpOrder) : e.orderId = orderId := by
  rw [compareOrder, List.mem_append, List.mem_ite_nil_right, List.mem_ite_nil_right] at h
  rcases h with ⟨-, h⟩ | ⟨-, h⟩
  · rw [List.mem_singleton.mp h]
    rfl
  · rw [List.mem_singleton.mp h]
    rfl

/-- **A fetch that fails takes away the entries about its order**, and no others. -/
theorem discrepancies_of_failed_fetch (orderId text : String) :
    (reconcile { inputs with
        fetchOrder := Function.update inputs.fetchOrder orderId (.error text) } s).discrepancies =
      (reconcile inputs s).discrepancies.filter fun e => e.orderId ≠ orderId := by
  show (records inputs s).flatMap _ = _
  unfold reconcile
  dsimp only
  rw [List.filter_flatMap]
  refine List.flatMap_congr fun row _ => ?_
  unfold checkRecord
  cases PolicyEngine.truthyId row.1.gatewayOrderId with
  | none => rfl
  | some id =>
    dsimp only
    by_cases hid : id = orderId
    · subst hid
      rw [Function.update_self]
      cases inputs.fetchOrder id with
      | error _ => rfl
      | ok order =>
        symm
        apply List.filter_eq_nil_iff.mpr
        intro e he
        simp [orderId_of_compareOrder he]
    · rw [Function.update_of_ne hid]
      cases inputs.fetchOrder id with
      | error _ => rfl
      | ok order =>
        symm
        apply List.filter_eq_self.mpr
        intro e he
        simp [orderId_of_compareOrder he, hid]

/-- **The report is faithful exactly where every operation of the window is no orphan and shows
no discrepancy twice.** -/
theorem faithful_iff :
    Faithful inputs d ↔ ∀ op ∈ d.store.operations.rows, inWindow inputs op = true →
      orphan d.store op = false ∧ ∀ kind, showing inputs.fetchOrder d.store kind op ≤ 1 := by
  rw [← complete_iff]
  constructor
  · exact fun h => h.complete
  · exact fun h => ⟨rfl, ⟨_, rfl, rfl⟩, h, discrepancies_of_failed_fetch⟩

end Report

/-! ### An orphan reservation -/

namespace Sample

open ControlPlane.Sample OperationRoutes

/-- An order that was reserved and never dispatched. -/
def reservedA : FinancialOperation :=
  (newOperation platform orderA (inputs "operation_A" "order_A" 600)).moveTo .reserved

def reservedStore : ReportedStore :=
  ⟨{ store with operations := ⟨[reservedA], List.nodup_singleton _⟩ }, []⟩

/-- A reconciliation of the last day. -/
def lastDay : ReconciliationInputs := ⟨20, 1440, "rec_1", fun _ => .error "not found"⟩

end Sample

open Sample in
/-- **An orphan reservation is not reported.** -/
theorem not_faithful_orphan : ¬ Faithful lastDay reservedStore := by
  intro h
  have hcount := h.complete .orphanReservation "operation_A"
  revert hcount
  decide +kernel

end MandatePlane.GatewayReconciliation

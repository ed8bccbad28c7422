import MandatePlane.DeploymentInvariants

/-!
# What a sweep heals

The reconciliation report shows where the ledger and the gateway differ; the sweep of the
worker settles what is stuck.  The two agree: given the same answers, the report after a sweep
is the report before it without the missed webhooks of the operations that the sweep selected.
What it says about amounts, and about all other operations, is the same.
-/

namespace MandatePlane.SweepHealing

open DomainModel KeyedTable LabelledRun LedgerView HostEnvironment RazorpayClient
open ReconciliationWorker JoinedRows GatewayReconciliation SweepVerdicts SweepCorrectness
open SweepCompleteness TransactionLinks TransactionLookup AgentRoutes Deployment
open DeploymentInvariants

/-! ### The report, transaction by transaction -/

/-- What the report says about one transaction. -/
def entries (inputs : ReconciliationInputs) (s : Store) (tx : Transaction) : List Discrepancy :=
  match s.operations.find? tx.operationId with
  | none => []
  | some op => if inWindow inputs op then checkRecord inputs.fetchOrder (tx, op) else []

theorem discrepancies_eq (inputs : ReconciliationInputs) (s : Store) :
    (reconcile inputs s).discrepancies = s.transactions.flatMap (entries inputs s) := by
  unfold reconcile records JoinedRows.join
  dsimp only
  induction s.transactions with
  | nil => rfl
  | cons tx txs ih =>
    rw [List.flatMap_cons, ← ih, List.filterMap_cons]
    unfold entries
    cases s.operations.find? tx.operationId with
    | none => rfl
    | some op =>
      dsimp only [Option.map_some]
      rw [List.filter_cons]
      cases inWindow inputs op with
      | true => rfl
      | false => rfl

/-- Checking reads the order id of the transaction only. -/
theorem checkRecord_congr {fetchOrder : String → Except String RazorpayOrderResponse}
    {tx tx' : Transaction} (h : tx'.gatewayOrderId = tx.gatewayOrderId) (op : FinancialOperation) :
    checkRecord fetchOrder (tx', op) = checkRecord fetchOrder (tx, op) := by
  unfold checkRecord
  rw [h]

theorem truthyId_eq_some {given : Option String} {id : String} :
    PolicyEngine.truthyId given = some id ↔ given = some id ∧ id.isEmpty = false := by
  cases given with
  | none => simp [PolicyEngine.truthyId]
  | some id' =>
    by_cases hempty : id'.isEmpty = true
    · simp only [PolicyEngine.truthyId, if_pos hempty, Option.some.injEq, reduceCtorEq, false_iff]
      rintro ⟨rfl, hne⟩
      rw [hempty] at hne
      cases hne
    · simp only [PolicyEngine.truthyId, if_neg hempty, Option.some.injEq]
      constructor
      · rintro rfl
        exact ⟨rfl, by simpa using hempty⟩
      · exact fun h => h.1

/-- The entries about a transaction name its operation. -/
theorem operationId_of_checkRecord {fetchOrder : String → Except String RazorpayOrderResponse}
    {tx : Transaction} {op : FinancialOperation} {e : Discrepancy}
    (h : e ∈ checkRecord fetchOrder (tx, op)) : e.operationId = op.operationId := by
  unfold checkRecord at h
  split at h
  · cases h
  · split at h
    · cases h
    · rw [compareOrder, List.mem_append, List.mem_ite_nil_right, List.mem_ite_nil_right] at h
      rcases h with ⟨-, h⟩ | ⟨-, h⟩
      · rw [List.mem_singleton.mp h]
        rfl
      · rw [List.mem_singleton.mp h]
        rfl

/-! ### The sweep -/

/-- The sweep and the report get the same answer about each order that is swept. -/
def SameAnswers (sweep : SweepInputs) (inputs : ReconciliationInputs) (s : Store) : Prop :=
  ∀ op ∈ stuckOperations sweep s, ∀ tx ∈ s.transactionsOf op.id, ∀ orderId,
    tx.gatewayOrderId = some orderId → sweep.fetchOrder op.id = inputs.fetchOrder orderId

/-- A missed webhook of an operation that a sweep selects. -/
def swept (sweep : SweepInputs) (s : Store) (e : Discrepancy) : Bool :=
  e.kind = .missedWebhook &&
    (stuckOperations sweep s).any fun op => op.operationId = e.operationId

/-- A sweep changes statuses of transactions only. -/
theorem carryAll_transactions (v : FinancialOperation → Verdict) (ops : List FinancialOperation)
    (s : Store) : ∃ f : Transaction → Transaction,
      (∀ tx, (f tx).operationId = tx.operationId ∧ (f tx).gatewayOrderId = tx.gatewayOrderId) ∧
      (carryAll v ops s).1.transactions = s.transactions.map f := by
  induction ops generalizing s with
  | nil => exact ⟨id, fun _ => ⟨rfl, rfl⟩, (List.map_id _).symm⟩
  | cons op ops ih =>
    obtain ⟨f, hf, hmap⟩ := ih (carry (v op) op s).1
    refine ⟨fun tx => f (if (v op).commits ∧ tx.operationId = op.id then
      { tx with status := .captured } else tx), fun tx => ?_, ?_⟩
    · dsimp only
      split
      · exact hf { tx with status := .captured }
      · exact hf tx
    · show (carryAll v ops (carry (v op) op s).1).1.transactions = _
      rw [hmap, carry_transactions, List.map_map]
      rfl

section Healed

variable {sweep : SweepInputs} {inputs : ReconciliationInputs} {s : Store}
  {op : FinancialOperation} {tx : Transaction}

/-- A verdict writes the status and the error message only. -/
theorem settle_order (v : Verdict) (op : FinancialOperation) :
    (v.settle op).operationId = op.operationId ∧ (v.settle op).amount = op.amount ∧
      (v.settle op).createdAt = op.createdAt := by
  cases v <;> exact ⟨rfl, rfl, rfl⟩

/-- A stuck operation whose order is paid is committed. -/
theorem verdict_of_paid {orderId : String} {order : RazorpayOrderResponse}
    (horder : tx.gatewayOrderId = some orderId) (hne : orderId.isEmpty = false)
    (hfetch : sweep.fetchOrder op.id = .ok order) (hpaid : order.status = "paid") :
    verdict sweep op (some tx) = .commit orderId := by
  have hdispatched : undispatched (some tx) = false := by
    simp [undispatched, noId, horder, hne]
  unfold verdict
  rw [hdispatched]
  simp [horder, hne, hfetch, hpaid]

/-- **The entries about a stuck operation**, before and after the sweep. -/
theorem compareOrder_healed {op' : FinancialOperation} {orderId : String}
    {order : RazorpayOrderResponse} (hop : op ∈ stuckOperations sweep s)
    (hid : op'.operationId = op.operationId) (hamount : op'.amount = op.amount)
    (hpaid : order.status = "paid" → op'.status = .succeeded) :
    compareOrder op' orderId order =
      (compareOrder op orderId order).filter fun e => !swept sweep s e := by
  have hnone : ¬ (order.status = "paid" ∧ op'.status ≠ .succeeded) := fun h => h.2 (hpaid h.1)
  unfold compareOrder
  rw [if_neg hnone, List.nil_append, List.filter_append, hid, hamount]
  have hmissed : (if order.status = "paid" ∧ op.status ≠ .succeeded then
      [Discrepancy.missedWebhookPaidOrder op.operationId orderId op.status.value order.status
        op.amount] else []).filter (fun e => !swept sweep s e) = [] := by
    rw [List.filter_eq_nil_iff]
    intro e he
    rw [List.mem_ite_nil_right, List.mem_singleton] at he
    rw [he.2]
    simp only [swept, Discrepancy.kind, Discrepancy.operationId, decide_true, Bool.true_and,
      Bool.not_eq_true', Bool.not_eq_false]
    exact List.any_eq_true.mpr ⟨op, hop, decide_eq_true rfl⟩
  have hamounts : (if order.amount ≠ op.amount then
      [Discrepancy.amountMismatch op.operationId orderId op.amount order.amount] else []).filter
        (fun e => !swept sweep s e) =
      if order.amount ≠ op.amount then
        [Discrepancy.amountMismatch op.operationId orderId op.amount order.amount] else [] := by
    rw [List.filter_eq_self]
    intro e he
    rw [List.mem_ite_nil_right, List.mem_singleton] at he
    rw [he.2]
    simp [swept, Discrepancy.kind]
  rw [hmissed, hamounts, List.nil_append]

/-- **A sweep heals the entries of each transaction.** -/
theorem entries_healed (hsound : Sound s) (hunique : OperationIdsUnique s)
    (hagree : SameAnswers sweep inputs s) (htx : tx ∈ s.transactions) {tx' : Transaction}
    (hlink : tx'.operationId = tx.operationId) (horder : tx'.gatewayOrderId = tx.gatewayOrderId) :
    entries inputs (carryAll (decision sweep s) (stuckOperations sweep s) s).1 tx' =
      (entries inputs s tx).filter fun e => !swept sweep s e := by
  obtain ⟨op, hop⟩ := stored_of_transaction hsound htx
  have hid : op.id = tx.operationId := Table.key_of_find? hop
  have hmem : op ∈ s.operations.rows := Table.mem_of_find? hop
  unfold entries
  rw [hlink, hop, ← hid]
  by_cases hstuck : op ∈ stuckOperations sweep s
  · have hone := OneLink.oneTransactionEach hsound.oneLink
    have hmine : tx ∈ s.transactionsOf op.id :=
      List.mem_filter.mpr ⟨htx, decide_eq_true hid.symm⟩
    have hrows : s.transactionsOf op.id = [tx] := by
      rcases nil_or_singleton (hone op.id) with hnil | ⟨tx₀, hsingle⟩
      · rw [hnil] at hmine
        cases hmine
      · rw [hsingle] at hmine ⊢
        rw [List.mem_singleton.mp hmine]
    have hdecision : decision sweep s op = verdict sweep op (some tx) := by
      rw [decision, if_pos (mandate_of_attached hsound.attached hmem), hrows]
      rfl
    obtain ⟨hfind, -⟩ := carryAll_selected (.refl _) hstuck (decision sweep s)
    obtain ⟨hoperationId, hamount, hcreated⟩ := settle_order (decision sweep s op) op
    rw [hfind]
    dsimp only
    have hwindow : inWindow inputs ((decision sweep s op).settle op) = inWindow inputs op := by
      unfold inWindow
      rw [hcreated]
    rw [hwindow]
    cases inWindow inputs op with
    | false => rfl
    | true =>
      rw [if_pos rfl, if_pos rfl, checkRecord_congr horder]
      unfold checkRecord
      cases hid' : PolicyEngine.truthyId tx.gatewayOrderId with
      | none => rfl
      | some orderId =>
        obtain ⟨hid', hne⟩ := truthyId_eq_some.mp hid'
        dsimp only
        rw [← hagree op hstuck tx hmine orderId hid']
        cases hfetch : sweep.fetchOrder op.id with
        | error text => rfl
        | ok order =>
          refine compareOrder_healed hstuck hoperationId hamount fun hpaid => ?_
          rw [hdecision, verdict_of_paid hid' hne hfetch hpaid]
          rfl
  · obtain ⟨hfind, -⟩ := carryAll_unselected (.refl _) hmem hstuck (decision sweep s)
    rw [hfind]
    dsimp only
    rw [checkRecord_congr horder]
    symm
    rw [List.filter_eq_self]
    intro e he
    have hname : e.operationId = op.operationId := by
      split at he
      · exact operationId_of_checkRecord he
      · cases he
    have hnone : ((stuckOperations sweep s).any fun row => row.operationId = e.operationId) =
        false := by
      rw [List.any_eq_false]
      intro row hrow hsame
      have hsame : row.operationId = op.operationId := (of_decide_eq_true hsame).trans hname
      obtain ⟨hstored, -⟩ := mem_stuckOperations.mp hrow
      exact hstuck (List.inj_on_of_nodup_map hunique hstored hmem hsame ▸ hrow)
    simp [swept, hnone]

end Healed

/-- **A sweep heals what the report shows of it.**  In every state that a deployment reaches, and for
every sweep and report that get the same answers about the swept orders: the sweep completes, and
the report after it is the report before it without the missed webhooks of the selected operations. -/
theorem sweep_heals_report (env : Platform) (settings : Settings) (host : Host) (d : Dataset)
    (hoperations : d.store.operations.rows = []) (htransactions : d.store.transactions = [])
    (calls : List DeploymentCall) (sweep : SweepInputs) (inputs : ReconciliationInputs)
    (hagree : SameAnswers sweep inputs ((deployment env settings host).run d calls).store) :
    ∃ c, reconcileStuckReservations sweep ((deployment env settings host).run d calls).store = .ok c ∧
      (reconcile inputs c.store).discrepancies =
        (reconcile inputs ((deployment env settings host).run d calls).store).discrepancies.filter
          fun e => !swept sweep ((deployment env settings host).run d calls).store e := by
  have hsound := sound_run env settings host (sound_empty hoperations htransactions) calls
  have hunique : OperationIdsUnique ((deployment env settings host).run d calls).store :=
    operationIdsUnique_run env settings host (by rw [OperationIdsUnique, hoperations]; exact
      List.nodup_nil) calls
  generalize ((deployment env settings host).run d calls).store = s at hsound hunique hagree ⊢
  refine ⟨_, sweepOver_eq (OneLink.oneTransactionEach hsound.oneLink) (stuckOperations sweep s), ?_⟩
  obtain ⟨f, hf, hmap⟩ := carryAll_transactions (decision sweep s) (stuckOperations sweep s) s
  rw [discrepancies_eq, discrepancies_eq]
  dsimp only
  rw [hmap, List.flatMap_map, List.filter_flatMap]
  exact List.flatMap_congr fun tx htx =>
    entries_healed hsound hunique hagree htx (hf tx).1 (hf tx).2

/-! ### A missed webhook -/

namespace Sample

open ControlPlane.Sample Deployment.Sample

/-- The first order is dispatched. -/
def dispatched : List DeploymentCall := [.plane (.control requestA)]

/-- A report on the last day, with the answers of the sweep. -/
def report : ReconciliationInputs :=
  ⟨microseconds 3600, 1440, "rec_1", fun _ => sweepA.fetchOrder "operation_A"⟩

end Sample

open Sample ControlPlane.Sample Deployment.Sample in
theorem sweep_heals_report_requestA :
    (reconcile report ((deployment platform settings host).run start dispatched).store
        ).discrepancies.length = 1 ∧
      ∃ c, reconcileStuckReservations sweepA
          ((deployment platform settings host).run start dispatched).store = .ok c ∧
        (reconcile report c.store).discrepancies.length = 0 := by
  refine ⟨by decide +kernel, ?_⟩
  obtain ⟨c, hc, hreport⟩ := sweep_heals_report platform settings host start rfl rfl dispatched
    sweepA report fun _ _ _ _ _ _ => rfl
  refine ⟨c, hc, ?_⟩
  rw [hreport]
  decide +kernel

end MandatePlane.SweepHealing

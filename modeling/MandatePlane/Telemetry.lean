import MandatePlane.RestingOperations
import MandatePlane.SideTables
import Mathlib.Algebra.BigOperators.Group.Finset.Basic

/-!
# The metrics

The metrics count operations by three of their statuses and webhook records by two.  Every
stored record is in one of few statuses, so what the metrics leave out can be read off them: the
operations that were rejected, wait for an approval or are at the gateway, and the deliveries that
may be tried again.
-/

namespace MandatePlane.Telemetry

open DomainModel KeyedTable LabelledRun LedgerView HostEnvironment HandlerPostings WebhookRoutes
open ControlPlane AgentChat WebhookReplay AgentRoutes DemoRoutes Deployment DeploymentInvariants
open RestingOperations SideTables GatewayReconciliation

/-! ### The endpoint -/

structure SystemMetricsResponse where
  totalOperations : ℕ
  succeededOperations : ℕ
  failedOperations : ℕ
  activeReservations : ℕ
  webhooksProcessed : ℕ
  webhooksInDlq : ℕ
  reconciliationReportsCount : ℕ
  lastReconciliationDiscrepancies : ℕ

/-- `SELECT count(id) FROM financial_operations WHERE status = status`. -/
def operationsIn (s : Store) (status : OperationStatus) : ℕ :=
  s.operations.rows.countP fun op => op.status = status

/-- `SELECT count(id) FROM webhook_events WHERE status = status`. -/
def webhooksIn (s : Store) (status : String) : ℕ :=
  s.webhookEvents.rows.countP fun r => r.status = status

/-- `GET /telemetry/metrics`.  The reports are listed as they were created. -/
def getSystemMetrics (d : Dataset) : SystemMetricsResponse where
  totalOperations := d.store.operations.rows.length
  succeededOperations := operationsIn d.store .succeeded
  failedOperations := operationsIn d.store .failed
  activeReservations := operationsIn d.store .reserved
  webhooksProcessed := webhooksIn d.store "PROCESSED"
  webhooksInDlq := webhooksIn d.store "DEAD_LETTER"
  reconciliationReportsCount := d.reports.length
  lastReconciliationDiscrepancies :=
    (d.reports.getLast?.map ReconciliationReport.inconsistenciesDetected).getD 0

/-! ### Counting by classes -/

/-- Counting class by class counts everything. -/
theorem length_eq_sum_countP {α β : Type} [DecidableEq β] (f : α → β) {classes : List β}
    (hnodup : classes.Nodup) {xs : List α} (h : ∀ x ∈ xs, f x ∈ classes) :
    xs.length = (classes.map fun c => xs.countP fun x => f x = c).sum := by
  have hcount (c : β) : Multiset.count c (xs.map f : Multiset β) = xs.countP fun x => f x = c := by
    rw [Multiset.coe_count, List.count_eq_countP, List.countP_map]
    rfl
  have hcard : ∑ c ∈ classes.toFinset, Multiset.count c (xs.map f : Multiset β) =
      Multiset.card (xs.map f : Multiset β) := by
    refine Multiset.sum_count_eq_card fun a ha => ?_
    obtain ⟨x, hx, rfl⟩ := List.mem_map.mp (Multiset.mem_coe.mp ha)
    exact List.mem_toFinset.mpr (h x hx)
  rw [List.sum_toFinset _ hnodup, Multiset.coe_card, List.length_map] at hcard
  rw [← hcard]
  exact congrArg List.sum (List.map_congr_left fun c _ => hcount c)

/-! ### The webhook records -/

/-- A webhook record between two deliveries: processed, to be tried again, or given up. -/
inductive Closed (r : WebhookEvent) : Prop
  | processed (hstatus : r.status = "PROCESSED") (hprocessed : r.processed = true)
  | failed (hstatus : r.status = "FAILED") (hprocessed : r.processed = false)
      (hattempts : r.processingAttempts < r.maxRetries)
  | dead (hstatus : r.status = "DEAD_LETTER") (hprocessed : r.processed = false)
      (hattempts : r.maxRetries ≤ r.processingAttempts)

/-- **A dead letter** is an unprocessed record whose attempts have reached their maximum. -/
theorem Closed.dead_iff {r : WebhookEvent} (h : Closed r) :
    r.status = "DEAD_LETTER" ↔ r.processed = false ∧ r.maxRetries ≤ r.processingAttempts := by
  cases h with
  | processed hstatus hprocessed => simp [hstatus, hprocessed]
  | failed hstatus hprocessed hattempts => simp [hstatus, hattempts]
  | dead hstatus hprocessed hattempts => simp [hstatus, hprocessed, hattempts]

def RecordsClosed (s : Store) : Prop := ∀ r ∈ s.webhookEvents.rows, Closed r

section Records

variable {env : Platform} {settings : Settings} {host : Host} {s s' : Store}
  {j : List JournalEntry}

theorem RecordsClosed.of_side (h : RecordsClosed s) (hside : sideTables s' = sideTables s) :
    RecordsClosed s' := by
  have hrecords : s'.webhookEvents = s.webhookEvents := congrArg Prod.snd hside
  unfold RecordsClosed
  rw [hrecords]
  exact h

/-- What is processed is open until it is closed. -/
theorem unprocessed_of_recorded {delivery : WebhookDelivery} {eventId : String}
    {eventType eventData : JsonValue.Json} {recorded : WebhookEvent × Store} (h : RecordsClosed s)
    (hnew : ∀ r, s.webhookEvents.find? eventId = some r → r.status ≠ "PROCESSED")
    (hrecorded : recordDelivery env delivery eventId eventType eventData s = .ok recorded) :
    recorded.1.processed = false := by
  unfold recordDelivery at hrecorded
  split at hrecorded
  · rename_i existing hfind
    cases hrecorded
    cases h existing (Table.mem_of_find? hfind) with
    | processed hstatus _ => exact absurd hstatus (hnew existing hfind)
    | failed _ hprocessed _ => exact hprocessed
    | dead _ hprocessed _ => exact hprocessed
  · obtain ⟨text, -, hrecorded⟩ := bind_eq_ok.mp hrecorded
    obtain ⟨records, -, hrecorded⟩ := bind_eq_ok.mp hrecorded
    cases hrecorded
    rfl

/-- A record that is settled is closed, and the others stay. -/
theorem closed_of_settled {records : Table WebhookEvent} {record : WebhookEvent}
    {f : WebhookEvent → WebhookEvent} (hf : ∀ r, Keyed.key (f r) = Keyed.key r)
    (h : RecordsClosed s) (hfind : records.find? record.eventId = some record)
    (hothers : ∀ id, id ≠ record.eventId → records.find? id = s.webhookEvents.find? id)
    (hclosed : Closed (f record)) :
    ∀ r ∈ (records.modify record.eventId f hf).rows, Closed r := by
  intro r hr
  rcases Table.mem_modify.mp hr with ⟨r₀, hr₀, hkey, rfl⟩ | ⟨hr, hne⟩
  · obtain rfl : r₀ = record :=
      Table.eq_of_key_eq hr₀ (Table.mem_of_find? hfind) hkey
    exact hclosed
  · have hstored := Table.find?_of_mem hr
    rw [hothers _ hne] at hstored
    exact h r (Table.mem_of_find? hstored)

theorem closed_succeeded (record : WebhookEvent) : Closed (Record.succeeded record) :=
  .processed rfl rfl

theorem closed_faulted (text : String) {record : WebhookEvent}
    (hprocessed : record.processed = false) : Closed (Record.faulted text record) := by
  rcases DeadLetters.faulted_status text record with ⟨hstatus, hattempts⟩ | ⟨hstatus, hattempts⟩
  · exact .dead hstatus hprocessed hattempts
  · exact .failed hstatus hprocessed hattempts

/-- **A delivery closes its record.** -/
theorem closed_webhook {delivery : WebhookDelivery} {c : Committed WebhookAnswer}
    (h : RecordsClosed s) (hc : handleRazorpayWebhook env settings delivery s = .ok c) :
    RecordsClosed c.store := by
  obtain ⟨_, -, hc⟩ := bind_eq_ok.mp hc
  obtain ⟨eventData, -, hc⟩ := bind_eq_ok.mp hc
  obtain ⟨givenId, -, hc⟩ := bind_eq_ok.mp hc
  obtain ⟨eventId, -, hc⟩ := bind_eq_ok.mp hc
  obtain ⟨eventType, -, hc⟩ := bind_eq_ok.mp hc
  split at hc
  · cases hc
    exact h
  · rename_i hunprocessed
    obtain ⟨recorded, hrecord, hsettle⟩ := bind_eq_ok.mp hc
    obtain ⟨records, hstore, hkey, hfind, hothers⟩ := recordDelivery_record hrecord
    have hprocessed := unprocessed_of_recorded h (fun r hr hstatus => hunprocessed (by
      rw [hr, Option.any_some, hstatus, decide_eq_true_eq])) hrecord
    obtain ⟨record, s₁⟩ := recorded
    dsimp only at hsettle hstore hkey hfind hprocessed
    subst hstore hkey
    unfold settleDelivery at hsettle
    split at hsettle
    · rename_i s₂ events hdone
      cases hsettle
      have hsame : s₂.webhookEvents = records :=
        processed_records (processDomainWebhookEvent_spec hdone)
      unfold RecordsClosed
      dsimp only
      rw [hsame]
      exact closed_of_settled Record.succeeded_key h hfind hothers (closed_succeeded record)
    · rename_i text _
      cases hsettle
      exact closed_of_settled (Record.faulted_key text) h hfind hothers
        (closed_faulted text hprocessed)
    · cases hsettle

/-- **Every step leaves every webhook record closed.** -/
theorem closed_anyStep (h : RecordsClosed s) (hstep : AnyStep env settings s j s') :
    RecordsClosed s' := by
  cases hstep with
  | called c _ =>
    cases c with
    | control a =>
      cases a with
      | webhook delivery =>
        rcases outcome_cases s (handleRazorpayWebhook env settings delivery s) with
          hc | ⟨c, hc, hdone⟩
        · rw [answer, perform, hc]
          exact h
        · rw [answer, perform, hdone]
          exact closed_webhook h hc
      | request _ _ _ => exact h.of_side (perform_side env settings s _ fun _ he => by cases he)
      | approve _ _ _ _ => exact h.of_side (perform_side env settings s _ fun _ he => by cases he)
      | verify _ _ => exact h.of_side (perform_side env settings s _ fun _ he => by cases he)
      | sweep _ => exact h.of_side (perform_side env settings s _ fun _ he => by cases he)
      | create _ _ _ => exact h.of_side (perform_side env settings s _ fun _ he => by cases he)
      | delegate _ _ _ _ => exact h.of_side (perform_side env settings s _ fun _ he => by cases he)
      | suspend _ _ => exact h.of_side (perform_side env settings s _ fun _ he => by cases he)
      | revoke _ _ => exact h.of_side (perform_side env settings s _ fun _ he => by cases he)
      | activate _ => exact h.of_side (perform_side env settings s _ fun _ he => by cases he)
      | agentStatus _ _ _ => exact h.of_side (perform_side env settings s _ fun _ he => by cases he)
    | chat agentId headers hex now => exact h.of_side (chat_side agentId headers hex now)
  | captured hcaptured =>
    exact h.of_side (processed_side (processDomainWebhookEvent_spec hcaptured))
  | enrolled principals agents _ => exact h
  | cleared inputs _ => exact fun r hr => absurd hr List.not_mem_nil

theorem closed_run (env : Platform) (settings : Settings) (host : Host) {d : Dataset}
    (h : RecordsClosed d.store) (calls : List DeploymentCall) :
    RecordsClosed ((deployment env settings host).run d calls).store :=
  deployment_keeps (fun _ _ _ hI hstep => closed_anyStep hI hstep)
    (fun _ _ hI _ => hI.of_side rfl) h calls

end Records

/-! ### The census -/

/-- **What the metrics say of the store**, with what they leave out. -/
structure Census (s : Store) (m : SystemMetricsResponse) : Prop where
  atRest : ∀ op ∈ s.operations.rows, AtRest (links s) op.id op.operationType op.status
  closed : ∀ r ∈ s.webhookEvents.rows, Closed r
  dead : ∀ r ∈ s.webhookEvents.rows, r.status = "DEAD_LETTER" ↔
    r.processed = false ∧ r.maxRetries ≤ r.processingAttempts
  operations : m.totalOperations = m.succeededOperations + m.failedOperations +
    m.activeReservations + operationsIn s .policyRejected + operationsIn s .requiresApproval +
      operationsIn s .executing
  reservations : m.activeReservations = s.operations.rows.countP fun op =>
    (op.operationType = .capturePayment ∨ op.operationType = .cancelPaymentLink) ∧
      op.status = .reserved
  webhooks : s.webhookEvents.rows.length =
    m.webhooksProcessed + m.webhooksInDlq + webhooksIn s "FAILED"
  processed : m.webhooksProcessed = s.webhookEvents.rows.countP WebhookEvent.processed
  deadLetters : m.webhooksInDlq = s.webhookEvents.rows.countP fun r =>
    !r.processed && decide (r.maxRetries ≤ r.processingAttempts)

section Census

variable {d : Dataset}

theorem census_of_rest (hrest : Resting d.store) (hclosed : RecordsClosed d.store) :
    Census d.store (getSystemMetrics d) := by
  refine ⟨hrest, hclosed, fun r hr => (hclosed r hr).dead_iff, ?_, ?_, ?_, ?_, ?_⟩
  · have hclasses : ∀ op ∈ d.store.operations.rows, op.status ∈ [OperationStatus.succeeded, .failed,
        .reserved, .policyRejected, .requiresApproval, .executing] := by
      intro op hop
      have h := hrest op hop
      generalize op.status = status at h ⊢
      cases h <;> decide
    refine (length_eq_sum_countP FinancialOperation.status (by decide) hclasses).trans ?_
    simp only [List.map_cons, List.map_nil, List.sum_cons, List.sum_nil, getSystemMetrics,
      operationsIn]
    omega
  · refine List.countP_congr fun op hop => ?_
    simp only [decide_eq_true_eq]
    refine ⟨fun hstatus => ⟨?_, hstatus⟩, And.right⟩
    have h := hrest op hop
    rw [hstatus] at h
    cases h with
    | aside htype _ => exact htype
  · have hclasses : ∀ r ∈ d.store.webhookEvents.rows,
        r.status ∈ ["PROCESSED", "DEAD_LETTER", "FAILED"] := by
      intro r hr
      cases hclosed r hr with
      | processed hstatus _ => simp [hstatus]
      | failed hstatus _ _ => simp [hstatus]
      | dead hstatus _ _ => simp [hstatus]
    refine (length_eq_sum_countP WebhookEvent.status (by decide) hclasses).trans ?_
    simp only [List.map_cons, List.map_nil, List.sum_cons, List.sum_nil, getSystemMetrics,
      webhooksIn]
    omega
  · refine List.countP_congr fun r hr => ?_
    simp only [decide_eq_true_eq]
    cases hclosed r hr with
    | processed hstatus hprocessed => exact iff_of_true hstatus hprocessed
    | failed hstatus hprocessed _ => simp [hstatus, hprocessed]
    | dead hstatus hprocessed _ => simp [hstatus, hprocessed]
  · refine List.countP_congr fun r hr => ?_
    simp only [decide_eq_true_eq, Bool.and_eq_true, Bool.not_eq_true']
    exact (hclosed r hr).dead_iff

end Census

/-- **The metrics account for everything.**  In every state of a run from an empty store, between
two calls, every operation is at rest and every webhook record is closed: what the metrics leave
out is rejected, waiting, at the gateway or to be tried again, and their active reservations are
captures and cancellations, no order, payment link or refund. -/
theorem metrics_account_for_store (env : Platform) (settings : Settings) (host : Host) (d : Dataset)
    (hoperations : d.store.operations.rows = []) (htransactions : d.store.transactions = [])
    (hwebhooks : d.store.webhookEvents.rows = []) (calls : List DeploymentCall) :
    Census ((deployment env settings host).run d calls).store
      (getSystemMetrics ((deployment env settings host).run d calls)) := by
  have hclosed : RecordsClosed d.store := fun r hr => by
    rw [hwebhooks] at hr
    cases hr
  exact census_of_rest
    (resting_run env settings host (sound_empty hoperations htransactions)
      (resting_empty hoperations) calls)
    (closed_run env settings host hclosed calls)

section Sample

open ControlPlane.Sample Deployment.Sample

/-- Two orders, the capture of the first and a refund of it. -/
def twoOrders : List DeploymentCall :=
  [.plane (.control requestA), .plane (.control requestB), .plane (.control (deliver capturedA)),
    .plane (.control (deliver refundA))]

theorem metrics_account_for_store_twoOrders :
    Census ((deployment platform settings host).run start twoOrders).store
        (getSystemMetrics ((deployment platform settings host).run start twoOrders)) ∧
      operationsIn ((deployment platform settings host).run start twoOrders).store .executing = 1 :=
  ⟨metrics_account_for_store platform settings host start rfl rfl rfl twoOrders, by decide +kernel⟩

end Sample

end MandatePlane.Telemetry

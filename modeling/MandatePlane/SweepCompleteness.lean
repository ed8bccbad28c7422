import MandatePlane.SweepCorrectness
import MandatePlane.TransactionLinks

/-!
# What a sweep leaves

The worker settles an operation whose dispatch left no gateway id, and one whose order the
gateway answers for.  A payment link is neither: its transaction carries the id of the link
and no order id, and the worker asks about orders only.  So a sweep that gets a definite
answer about everything leaves exactly the payment links in flight, and no later sweep does
more.

In every state that is reached before any request was stored, an operation has its mandate and
at most one transaction, so no round of the sweep is skipped or fails.
-/

namespace MandatePlane.SweepCompleteness

open DomainModel KeyedTable HoldLedger LabelledRun LedgerView HandlerPostings HostEnvironment
open ControlPlane TransactionLinks ReconciliationWorker SweepVerdicts SweepCorrectness

/-! ### Every operation has its mandate and at most one transaction -/

theorem OneLink.oneTransactionEach {s : Store} (h : OneLink s) : OneTransactionEach s := by
  intro id
  have hnodup : ((s.transactionsOf id).map Transaction.operationId).Nodup := by
    have hall := h.single
    unfold links at hall
    rw [List.map_map] at hall
    exact (List.Sublist.map _ List.filter_sublist).nodup hall
  have hsame : ∀ tx ∈ s.transactionsOf id, tx.operationId = id := by
    intro tx htx
    simpa using (List.mem_filter.mp htx).2
  match hrows : s.transactionsOf id with
  | [] => simp
  | [tx] => simp
  | tx :: tx' :: rest =>
    rw [hrows] at hnodup hsame
    have hne : tx.operationId ≠ tx'.operationId := by
      intro he
      simp [he] at hnodup
    exact absurd ((hsame tx (by simp)).trans (hsame tx' (by simp)).symm) hne

section Reached

variable {env : Platform} {settings : Settings} {s s' : Store} {a : Action} {events : List Event}

theorem attached_step (h : Step env settings s a events s') (ha : Attached (ledger s)) :
    Attached (ledger s') := by
  rw [h.books]
  rcases h.ruled_or_verified with hruled | ⟨op, -, rfl⟩
  · refine Machine.inv_run (fun L e ha hr => ?_) ha hruled
    apply attached_enter ha (entry e)
    intro hold he
    cases e with
    | opened op =>
      cases he
      exact hr.2.2.2
    | issued _ => cases he
    | posted _ _ _ _ => cases he
    | credited _ _ => cases he
    | gatewayCall _ _ => cases he
  · have hpost := attached_enter ha (entry (.posted op .succeeded (-op.amount) op.amount))
      fun hold he => by simp [entry] at he
    exact hpost

theorem mandate_of_attached (ha : Attached (ledger s)) {op : FinancialOperation}
    (hop : op ∈ s.operations.rows) : (s.mandates.find? op.mandateId).isSome = true := by
  obtain ⟨acc, hacc⟩ := ha (operationHold op) (List.mem_map_of_mem hop)
  rw [accounts_find?] at hacc
  obtain ⟨m, hm, -⟩ := Option.map_eq_some_iff.mp hacc
  have hm' : s.mandates.find? op.mandateId = some m := hm
  rw [hm']
  rfl

/-- Without operations and transactions there is nothing to be wrong. -/
theorem attached_and_oneLink_empty (hoperations : s.operations.rows = [])
    (htransactions : s.transactions = []) : Attached (ledger s) ∧ OneLink s := by
  constructor
  · intro hold hm
    rw [show (ledger s).holds.rows = s.operations.rows.map operationHold from rfl, hoperations] at hm
    simp at hm
  · have hlinks : links s = [] := by rw [links, htransactions, List.map_nil]
    constructor <;> simp [hlinks]

/-- What a run that starts without operations and transactions keeps. -/
theorem attached_and_single (hoperations : s.operations.rows = []) (htransactions : s.transactions = [])
    (actions : List Action) :
    Attached (ledger ((controlPlane env settings).run s actions)) ∧
      OneTransactionEach ((controlPlane env settings).run s actions) := by
  have hinv : Attached (ledger ((controlPlane env settings).run s actions)) ∧
      OneLink ((controlPlane env settings).run s actions) := by
    refine Machine.inv_run (P := fun _ _ => True) (I := fun s => Attached (ledger s) ∧ OneLink s)
      (fun s a hinv _ => ?_) (attached_and_oneLink_empty hoperations htransactions)
      (Machine.along_of_forall fun _ _ _ => trivial)
    have hstep := perform_step env settings s a
    exact ⟨attached_step hstep hinv.1, oneLink_step hstep hinv.2⟩
  exact ⟨hinv.1, OneLink.oneTransactionEach hinv.2⟩

end Reached

/-! ### The operations no answer settles -/

/-- Older than the timeout when the sweep begins, and than five minutes when it is checked. -/
def Old (inputs : SweepInputs) (op : FinancialOperation) : Prop :=
  op.createdAt ≤ inputs.startedAt - microseconds inputs.timeoutSeconds ∧
    microseconds 300 < inputs.checkedAt op.id - op.createdAt

/-- The gateway answers that what was created is paid, or that it is not yet. -/
def Definite (inputs : SweepInputs) (op : FinancialOperation) : Prop :=
  ∃ order, inputs.fetchOrder op.id = .ok order ∧
    (order.status = "paid" ∨ order.status = "attempted" ∨ order.status = "created")

/-- The dispatch left a gateway id, but not the id of an order: a payment link. -/
def WithoutOrder (s : Store) (op : FinancialOperation) : Prop :=
  ∃ tx ∈ s.transactionsOf op.id, noId tx.gatewayOrderId = true ∧ undispatched (some tx) = false

variable {inputs : SweepInputs} {s : Store} {op : FinancialOperation}

theorem verdict_keep_iff {tx : Transaction} (hanswer : Definite inputs op) (hold : Old inputs op) :
    verdict inputs op (some tx) = .keep ↔
      noId tx.gatewayOrderId = true ∧ undispatched (some tx) = false := by
  obtain ⟨order, hfetch, hstatus⟩ := hanswer
  unfold verdict
  by_cases hundispatched : undispatched (some tx) = true
  · simp [hundispatched]
  · rw [if_neg hundispatched, Bool.not_eq_true] at *
    cases horder : tx.gatewayOrderId with
    | none => simp [horder, noId, hundispatched]
    | some orderId =>
      simp only [Option.bind_some, horder, noId, hfetch]
      by_cases hempty : orderId.isEmpty = true
      · simp [hempty, hundispatched]
      · rw [if_neg hempty]
        by_cases hpaid : order.status = "paid"
        · simp [hpaid, hempty]
        · have hunpaid : (order.status = "attempted" ∨ order.status = "created") ∧
              inputs.checkedAt op.id - op.createdAt > microseconds 300 :=
            ⟨hstatus.resolve_left hpaid, hold.2⟩
          rw [if_neg hpaid, if_pos hunpaid]
          simp [hempty]

/-- **What is kept.**  With a definite answer the worker keeps an old operation exactly if its
transaction has no order. -/
theorem decision_keep_iff (hone : OneTransactionEach s)
    (hmandate : (s.mandates.find? op.mandateId).isSome = true) (hanswer : Definite inputs op)
    (hold : Old inputs op) : decision inputs s op = .keep ↔ WithoutOrder s op := by
  rw [decision, if_pos hmandate, WithoutOrder]
  rcases nil_or_singleton (hone op.id) with hrows | ⟨tx, hrows⟩
  · rw [hrows]
    simp [verdict, undispatched]
  · rw [hrows]
    simpa using verdict_keep_iff hanswer hold

/-- After the sweep nothing old is in flight. -/
def Settled (inputs : SweepInputs) (s : Store) : Prop :=
  ∀ op ∈ s.operations.rows, Old inputs op → op.status.inFlight = false

/-- **A sweep is complete exactly without payment links.**  In every state a run reaches, and for
every sweep that gets a definite answer about the old operations in flight: the sweep completes,
and it settles all of them if and only if none of them has a transaction without an order. -/
theorem sweep_complete_iff (env : Platform) (settings : Settings) (s₀ : Store)
    (actions : List Action) (inputs : SweepInputs) (hoperations : s₀.operations.rows = [])
    (htransactions : s₀.transactions = [])
    (hanswers : ∀ op ∈ ((controlPlane env settings).run s₀ actions).operations.rows,
      op.status.inFlight = true → Old inputs op → Definite inputs op) :
    ∃ c, reconcileStuckReservations inputs ((controlPlane env settings).run s₀ actions) = .ok c ∧
      (Settled inputs c.store ↔
        ∀ op ∈ ((controlPlane env settings).run s₀ actions).operations.rows,
          op.status.inFlight = true → Old inputs op →
          ¬ WithoutOrder ((controlPlane env settings).run s₀ actions) op) := by
  obtain ⟨hattached, hone⟩ :=
    @attached_and_single env settings s₀ hoperations htransactions actions
  generalize (controlPlane env settings).run s₀ actions = s at *
  refine ⟨_, sweepOver_eq hone (stuckOperations inputs s), ?_⟩
  have hkeep : ∀ op ∈ s.operations.rows, op.status.inFlight = true → Old inputs op →
      (decision inputs s op = .keep ↔ WithoutOrder s op) := by
    intro op hop hflight hold
    exact decision_keep_iff hone (mandate_of_attached hattached hop) (hanswers op hop hflight hold)
      hold
  constructor
  · intro hsettled op hop hflight hold hwithout
    have hstuck := mem_stuckOperations.mpr ⟨hop, hflight, hold.1⟩
    obtain ⟨hleft, -⟩ := carryAll_selected (.refl _) hstuck (decision inputs s)
    rw [(hkeep op hop hflight hold).mpr hwithout] at hleft
    have hidle := hsettled op (Table.mem_of_find? hleft) hold
    rw [hflight] at hidle
    cases hidle
  · intro hnone op hop hold
    by_contra hflight
    rw [Bool.not_eq_false] at hflight
    have hleft := mem_stuckOperations.mpr ⟨hop, hflight, hold.1⟩
    obtain ⟨hstuck, hkept⟩ := decision_left (.refl _) hleft
    obtain ⟨hbefore, -, -⟩ := mem_stuckOperations.mp hstuck
    exact hnone op hbefore hflight hold ((hkeep op hbefore hflight hold).mp hkept)

/-! ### An order and a payment link -/

section Sampled

open Sample

/-- The first order in flight; an hour later the gateway reports it as paid. -/
theorem sweep_complete_requestA :
    ∃ c, reconcileStuckReservations sweepA
        ((controlPlane platform Sample.settings).run store [requestA]) = .ok c ∧
      Settled sweepA c.store := by
  obtain ⟨c, hc, hsettled⟩ := sweep_complete_iff platform Sample.settings store [requestA] sweepA
    rfl rfl fun _ _ _ _ => ⟨_, rfl, .inl rfl⟩
  refine ⟨c, hc, hsettled.mpr ?_⟩
  rintro op - - - ⟨tx, htx, hnone, -⟩
  have hall : ((controlPlane platform Sample.settings).run store [requestA]).transactions.all
      (fun tx => !noId tx.gatewayOrderId) = true := by decide +kernel
  have horder := List.all_eq_true.mp hall tx (List.mem_filter.mp htx).1
  simp [hnone] at horder

/-- A payment link under the mandate, which the gateway creates. -/
def requestLink : Action :=
  .request { orderA with operationType := .createPaymentLink } ⟨none, none, none⟩
    { Sample.inputs "operation_A" "order_A" 600 with
      gateway := ⟨.error "", .ok ⟨"plink_A", "short_A", 600, "INR"⟩, .error ""⟩ }

/-- **A payment link stays in flight**, although it is paid and the hour is long over. -/
theorem sweep_leaves_payment_link :
    ¬ ∀ (env : Platform) (settings : Settings) (s₀ : Store) (actions : List Action)
        (inputs : SweepInputs), s₀.operations.rows = [] → s₀.transactions = [] →
      (∀ op ∈ ((controlPlane env settings).run s₀ actions).operations.rows,
        op.status.inFlight = true → Old inputs op → Definite inputs op) →
      ∀ c, reconcileStuckReservations inputs ((controlPlane env settings).run s₀ actions) = .ok c →
        Settled inputs c.store := by
  intro h
  have hleft : (reconcileStuckReservations sweepA
      ((controlPlane platform Sample.settings).run store [requestLink])).toOption.map (fun c =>
        c.store.operations.rows.any fun op => op.status.inFlight && decide
          (op.createdAt ≤ sweepA.startedAt - microseconds sweepA.timeoutSeconds) && decide
          (microseconds 300 < sweepA.checkedAt op.id - op.createdAt)) = some true := by
    decide +kernel
  cases hc : reconcileStuckReservations sweepA
      ((controlPlane platform Sample.settings).run store [requestLink]) with
  | error refusal =>
    rw [hc] at hleft
    cases hleft
  | ok c =>
    rw [hc] at hleft
    obtain ⟨op, hop, hstuck⟩ := List.any_eq_true.mp (Option.some.inj hleft)
    simp only [Bool.and_eq_true, decide_eq_true_eq] at hstuck
    obtain ⟨⟨hflight, hcutoff⟩, hage⟩ := hstuck
    have hidle := h platform Sample.settings store [requestLink] sweepA rfl rfl
      (fun _ _ _ _ => ⟨_, rfl, .inl rfl⟩) c hc op hop ⟨hcutoff, hage⟩
    rw [hflight] at hidle
    cases hidle

end Sampled

end MandatePlane.SweepCompleteness

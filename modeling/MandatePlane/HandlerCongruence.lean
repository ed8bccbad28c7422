import MandatePlane.Lockstep
import MandatePlane.WebhookRoutes

/-!
# What the webhook handlers read

The domain handlers read the operations, the transactions and the two counters of a
mandate.  Of a mandate they write the counters and the version, and nothing that they
write depends on another column.  So stores whose mandates differ in other columns are
handled in lockstep: the handlers fail alike, observe the same and leave stores that
differ as before.
-/

namespace MandatePlane.HandlerCongruence

open DomainModel KeyedTable JsonValue HostEnvironment Lockstep WebhookRoutes

/-- Mandates that differ in columns the handlers do not read: a write of the counters keeps them
related. -/
structure CounterRelation (R : Mandate → Mandate → Prop) : Prop where
  id : ∀ m m', R m m' → m'.id = m.id
  committed : ∀ m m', R m m' → m'.currentAggregateSpend = m.currentAggregateSpend
  reserved : ∀ m m', R m m' → m'.reservedSpend = m.reservedSpend
  write : ∀ m m' committed reserved, R m m' →
    R { m with
        currentAggregateSpend := committed, reservedSpend := reserved, version := m.version + 1 }
      { m' with
        currentAggregateSpend := committed, reservedSpend := reserved, version := m'.version + 1 }

/-- The tables the handlers have no part in. -/
def aside (s : Store) : Table Principal × Table Agent × Table WebhookEvent :=
  (s.principals, s.agents, s.webhookEvents)

/-- The same operations and transactions, related mandates, and the rest in the relation `Q`. -/
structure Corresponds (R : Mandate → Mandate → Prop)
    (Q : Table Principal × Table Agent × Table WebhookEvent →
      Table Principal × Table Agent × Table WebhookEvent → Prop) (s s' : Store) : Prop where
  operations : s'.operations = s.operations
  transactions : s'.transactions = s.transactions
  mandates : List.Forall₂ R s.mandates.rows s'.mandates.rows
  rest : Q (aside s) (aside s')

variable {R : Mandate → Mandate → Prop}
  {Q : Table Principal × Table Agent × Table WebhookEvent →
    Table Principal × Table Agent × Table WebhookEvent → Prop}
  {env : Platform} {s s' : Store}

namespace CounterRelation

theorem commitReserved (hR : CounterRelation R) (amount : ℤ) (m m' : Mandate) (h : R m m') :
    R (m.commitReserved amount) (m'.commitReserved amount) := by
  have hw := hR.write m m' (m.currentAggregateSpend + amount) (m.reservedSpend - amount) h
  rw [Mandate.commitReserved, Mandate.commitReserved, hR.committed m m' h, hR.reserved m m' h]
  exact hw

theorem commitUnreserved (hR : CounterRelation R) (amount : ℤ) (m m' : Mandate) (h : R m m') :
    R (m.commitUnreserved amount) (m'.commitUnreserved amount) := by
  have hw := hR.write m m' (m.currentAggregateSpend + amount) m.reservedSpend h
  nth_rewrite 2 [← hR.reserved m m' h] at hw
  rw [Mandate.commitUnreserved, Mandate.commitUnreserved, hR.committed m m' h]
  exact hw

theorem release (hR : CounterRelation R) (amount : ℤ) (m m' : Mandate) (h : R m m') :
    R (m.release amount) (m'.release amount) := by
  have hw := hR.write m m' m.currentAggregateSpend (m.reservedSpend - amount) h
  nth_rewrite 2 [← hR.committed m m' h] at hw
  rw [Mandate.release, Mandate.release, hR.reserved m m' h]
  exact hw

theorem withCommitted (hR : CounterRelation R) (committed : ℤ) (m m' : Mandate) (h : R m m') :
    R (m.withCommitted committed) (m'.withCommitted committed) := by
  have hw := hR.write m m' committed m.reservedSpend h
  nth_rewrite 2 [← hR.reserved m m' h] at hw
  exact hw

end CounterRelation

namespace Corresponds

theorem mandate (hR : CounterRelation R) (h : Corresponds R Q s s') (id : String) :
    Option.Rel R (s.mandates.find? id) (s'.mandates.find? id) :=
  Table.find?_rel hR.id h.mandates id

theorem updateMandate (hR : CounterRelation R) (h : Corresponds R Q s s') (id : String)
    {f : Mandate → Mandate} {hf : ∀ m, Keyed.key (f m) = Keyed.key m}
    (hwrite : ∀ m m', R m m' → R (f m) (f m')) :
    Corresponds R Q (s.updateMandate id f hf) (s'.updateMandate id f hf) := by
  have hrows : List.Forall₂ R (s.mandates.modify id f hf).rows (s'.mandates.modify id f hf).rows :=
    Table.modify_rel hR.id h.mandates id hwrite
  exact ⟨h.operations, h.transactions, hrows, h.rest⟩

theorem updateOperation (h : Corresponds R Q s s') (id : String)
    {f : FinancialOperation → FinancialOperation} {hf : ∀ op, Keyed.key (f op) = Keyed.key op} :
    Corresponds R Q (s.updateOperation id f hf) (s'.updateOperation id f hf) := by
  refine ⟨?_, h.transactions, h.mandates, h.rest⟩
  show s'.operations.modify id f hf = s.operations.modify id f hf
  rw [h.operations]

theorem updateTransactions (h : Corresponds R Q s s') (selects : Transaction → Bool)
    (f : Transaction → Transaction) :
    Corresponds R Q (s.updateTransactions selects f) (s'.updateTransactions selects f) := by
  refine ⟨h.operations, ?_, h.mandates, h.rest⟩
  show s'.transactions.map _ = s.transactions.map _
  rw [h.transactions]

theorem audit (h : Corresponds R Q s s') (e e' : AuditEvent) :
    Corresponds R Q (s.audit e) (s'.audit e') :=
  ⟨h.operations, h.transactions, h.mandates, h.rest⟩

theorem transactionsByOrder (h : Corresponds R Q s s') :
    s'.transactionsByOrder = s.transactionsByOrder := by
  funext id
  rw [Store.transactionsByOrder, Store.transactionsByOrder, h.transactions]

theorem transactionsByPayment (h : Corresponds R Q s s') :
    s'.transactionsByPayment = s.transactionsByPayment := by
  funext id
  rw [Store.transactionsByPayment, Store.transactionsByPayment, h.transactions]

theorem withOperation (h : Corresponds R Q s s') (rows : List Transaction) :
    withOperation s' rows = withOperation s rows := by
  unfold WebhookRoutes.withOperation
  rw [h.operations]

end Corresponds

/-! ### The handlers -/

/-- Stores that correspond, and the same observations. -/
def SameDone (R : Mandate → Mandate → Prop)
    (Q : Table Principal × Table Agent × Table WebhookEvent →
      Table Principal × Table Agent × Table WebhookEvent → Prop)
    (done done' : Store × List Event) : Prop :=
  Corresponds R Q done.1 done'.1 ∧ done'.2 = done.2

theorem captureBudget_congr (hR : CounterRelation R) (h : Corresponds R Q s s')
    (op : FinancialOperation) :
    Corresponds R Q (captureBudget op s).1 (captureBudget op s').1 ∧
      (captureBudget op s').2 = (captureBudget op s).2 := by
  unfold captureBudget
  have hrow := h.mandate hR op.mandateId
  generalize s.mandates.find? op.mandateId = row at hrow ⊢
  generalize s'.mandates.find? op.mandateId = row' at hrow ⊢
  cases hrow with
  | none => exact ⟨h, rfl⟩
  | @some m m' hm =>
    dsimp only
    rw [hR.reserved m m' hm, hR.id m m' hm]
    split
    · exact ⟨h.updateMandate hR m.id (hR.commitReserved op.amount), rfl⟩
    · exact ⟨h.updateMandate hR m.id (hR.commitUnreserved op.amount), rfl⟩

theorem failureBudget_congr (hR : CounterRelation R) (h : Corresponds R Q s s')
    (op : FinancialOperation) :
    Corresponds R Q (failureBudget op s).1 (failureBudget op s').1 ∧
      (failureBudget op s').2 = (failureBudget op s).2 := by
  unfold failureBudget
  have hrow := h.mandate hR op.mandateId
  generalize s.mandates.find? op.mandateId = row at hrow ⊢
  generalize s'.mandates.find? op.mandateId = row' at hrow ⊢
  cases hrow with
  | none => exact ⟨h, rfl⟩
  | @some m m' hm =>
    dsimp only
    rw [hR.reserved m m' hm, hR.id m m' hm]
    split
    · exact ⟨h.updateMandate hR m.id (hR.release op.amount), rfl⟩
    · exact ⟨h, rfl⟩

theorem captured_congr (hR : CounterRelation R) (h : Corresponds R Q s s') (payload : Json)
    (eventType : String) :
    InStep (SameDone R Q) (handlePaymentCapturedEvent env payload eventType s)
      (handlePaymentCapturedEvent env payload eventType s') := by
  unfold handlePaymentCapturedEvent
  refine .bind_same _ fun refs => ?_
  dsimp only
  split
  · exact .returned ⟨h, rfl⟩
  · refine .bind_same _ fun orderId => ?_
    rw [h.transactionsByOrder, h.withOperation]
    refine .bind_same _ fun row => ?_
    match row with
    | none => exact .returned ⟨h, rfl⟩
    | some (tx, op) =>
      dsimp only
      split
      · exact .returned ⟨h, rfl⟩
      · refine .bind_same _ fun _ => .bind_same _ fun gatewayPaymentId => .returned ?_
        obtain ⟨hbudget, hevent⟩ := captureBudget_congr hR h op
        exact ⟨((hbudget.updateOperation op.id).updateTransactions _ _).audit _ _,
          congrArg (fun e => [e]) hevent⟩

theorem failed_congr (hR : CounterRelation R) (h : Corresponds R Q s s') (payload : Json)
    (eventType : String) :
    InStep (SameDone R Q) (handlePaymentFailedEvent env payload eventType s)
      (handlePaymentFailedEvent env payload eventType s') := by
  unfold handlePaymentFailedEvent
  refine .bind_same _ fun refs => ?_
  dsimp only
  split
  · exact .returned ⟨h, rfl⟩
  · refine .bind_same _ fun orderId => ?_
    rw [h.transactionsByOrder, h.withOperation]
    refine .bind_same _ fun row => ?_
    match row with
    | none => exact .returned ⟨h, rfl⟩
    | some (tx, op) =>
      dsimp only
      split
      · exact .returned ⟨h, rfl⟩
      · refine .bind_same _ fun errorMessage => .returned ?_
        obtain ⟨hbudget, hevent⟩ := failureBudget_congr hR h op
        exact ⟨((hbudget.updateOperation op.id).updateTransactions _ _).audit _ _,
          congrArg (fun e => [e]) hevent⟩

theorem refunded_congr (hR : CounterRelation R) (h : Corresponds R Q s s') (payload : Json) :
    InStep (SameDone R Q) (handleRefundProcessedEvent env payload s)
      (handleRefundProcessedEvent env payload s') := by
  unfold handleRefundProcessedEvent
  refine .bind_same _ fun refs => ?_
  dsimp only
  split
  · exact .returned ⟨h, rfl⟩
  · refine .bind_same _ fun paymentId => ?_
    rw [h.transactionsByPayment, h.withOperation]
    refine .bind_same _ fun row => ?_
    cases row with
    | none => exact .returned ⟨h, rfl⟩
    | some found =>
      obtain ⟨tx, op⟩ := found
      dsimp only
      have hrow := h.mandate hR op.mandateId
      generalize s.mandates.find? op.mandateId = row at hrow ⊢
      generalize s'.mandates.find? op.mandateId = row' at hrow ⊢
      cases hrow with
      | none => exact .returned ⟨h, rfl⟩
      | @some m m' hm =>
        dsimp only
        rw [hR.committed m m' hm, hR.id m m' hm]
        exact .bind_same _ fun committed =>
          .returned ⟨h.updateMandate hR m.id (hR.withCommitted committed), rfl⟩

/-- **The handlers read the books and the counters**, and nothing else. -/
theorem process_congr (hR : CounterRelation R) (h : Corresponds R Q s s')
    (eventType eventData : Json) :
    InStep (SameDone R Q) (processDomainWebhookEvent env eventType eventData s)
      (processDomainWebhookEvent env eventType eventData s') := by
  unfold processDomainWebhookEvent
  refine .bind_same _ fun payload => ?_
  split
  · split
    · exact captured_congr hR h payload _
    · split
      · exact failed_congr hR h payload _
      · split
        · exact refunded_congr hR h payload
        · exact .returned ⟨h, rfl⟩
  · exact .returned ⟨h, rfl⟩

/-! ### The pipeline -/

/-- Stores that correspond, the same answer and the same observations. -/
def SameCommit (R : Mandate → Mandate → Prop) (c c' : Committed WebhookAnswer) : Prop :=
  Corresponds R Eq c.store c'.store ∧ c'.events = c.events ∧ c'.value = c.value

/-- The records of the deliveries, in stores that agree on them. -/
theorem Corresponds.records (h : Corresponds R Eq s s') :
    s'.webhookEvents = s.webhookEvents := by
  have hrest : (aside s).2.2 = (aside s').2.2 := by rw [h.rest]
  exact hrest.symm

theorem Corresponds.withRecords (h : Corresponds R Eq s s') (records : Table WebhookEvent) :
    Corresponds R Eq { s with webhookEvents := records } { s' with webhookEvents := records } := by
  have hprincipals : (aside s).1 = (aside s').1 := by rw [h.rest]
  have hagents : (aside s).2.1 = (aside s').2.1 := by rw [h.rest]
  refine ⟨h.operations, h.transactions, h.mandates, ?_⟩
  show (s.principals, s.agents, records) = (s'.principals, s'.agents, records)
  rw [show s.principals = s'.principals from hprincipals,
    show s.agents = s'.agents from hagents]

theorem recordDelivery_congr (h : Corresponds R Eq s s') (delivery : WebhookDelivery)
    (eventId : String) (eventType eventData : Json) :
    InStep (fun x x' => x'.1 = x.1 ∧ Corresponds R Eq x.2 x'.2)
      (recordDelivery env delivery eventId eventType eventData s)
      (recordDelivery env delivery eventId eventType eventData s') := by
  unfold recordDelivery
  rw [h.records]
  split
  · exact .returned ⟨rfl, h.withRecords _⟩
  · exact .bind_same _ fun text => .bind_same _ fun records =>
      .returned ⟨rfl, h.withRecords records⟩

theorem settleDelivery_congr (hR : CounterRelation R) (h : Corresponds R Eq s s')
    (eventType eventData : Json) (record : WebhookEvent) :
    InStep (SameCommit R) (settleDelivery env eventType eventData record s)
      (settleDelivery env eventType eventData record s') := by
  have hstep := @process_congr R Eq env s s' hR h eventType eventData
  unfold settleDelivery
  generalize processDomainWebhookEvent env eventType eventData s = x at hstep ⊢
  generalize processDomainWebhookEvent env eventType eventData s' = x' at hstep ⊢
  cases hstep with
  | returned hdone =>
    dsimp only
    rw [hdone.1.records]
    exact .returned ⟨hdone.1.withRecords _, hdone.2, rfl⟩
  | failed fault =>
    cases fault with
    | raised text =>
      dsimp only
      rw [h.records]
      exact .returned ⟨h.withRecords _, rfl, rfl⟩
    | aborted => exact .failed _

/-- **A delivery reads the books, the counters and its record.** -/
theorem handle_congr (hR : CounterRelation R) (h : Corresponds R Eq s s') (settings : Settings)
    (delivery : WebhookDelivery) :
    InStep (SameCommit R) (handleRazorpayWebhook env settings delivery s)
      (handleRazorpayWebhook env settings delivery s') := by
  unfold handleRazorpayWebhook
  refine .bind_same _ fun _ => .bind_same _ fun eventData => .bind_same _ fun givenId =>
    .bind_same _ fun eventId => .bind_same _ fun eventType => ?_
  rw [h.records]
  split
  · exact .returned ⟨h, rfl, rfl⟩
  · refine .bind (recordDelivery_congr h delivery eventId eventType eventData) ?_
    rintro ⟨record, s₁⟩ ⟨record', s₁'⟩ ⟨hrecord, hstore⟩
    cases hrecord
    exact settleDelivery_congr hR hstore eventType eventData record

end MandatePlane.HandlerCongruence

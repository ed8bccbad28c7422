import MandatePlane.ControlPlane
import MandatePlane.HandlerCongruence
import Mathlib.Data.Fintype.EquivFin

/-!
# Deliveries of one webhook body, again and again

A delivery is deduplicated by the event id in its body.  A body without one is
processed at every delivery, each time under an id that has just been invented.

What the domain handlers do depends on the operations, the transactions and the
mandates only.  A capture and a failure look at the status of the operation and so do
nothing the second time; a refund looks at nothing, and takes its amount off
`current_aggregate_spend` at every delivery.
-/

namespace MandatePlane.WebhookReplay

open DomainModel KeyedTable LabelledRun LedgerView HostEnvironment JsonValue HandlerPostings
open ControlPlane WebhookRoutes HandlerCongruence Lockstep

/-- A mandate without its `version`, which every UPDATE counts up. -/
def unversioned (m : Mandate) : Mandate := { m with version := 0 }

theorem key_unversioned (m : Mandate) : Keyed.key (unversioned m) = Keyed.key m := rfl

def budgets (s : Store) : Table Mandate := s.mandates.mapRows unversioned key_unversioned

/-- An UPDATE that reads no version, seen in the budgets. -/
theorem budgets_updateMandate (s : Store) (id : String) {f : Mandate → Mandate}
    {hf : ∀ m, Keyed.key (f m) = Keyed.key m}
    (hread : ∀ m, unversioned (f m) = unversioned (f (unversioned m))) :
    budgets (s.updateMandate id f hf) =
      (budgets s).modify id (fun m => unversioned (f m)) (fun m => hf m) :=
  Table.mapRows_modify key_unversioned s.mandates id f hf (fun m => unversioned (f m))
    (fun m => hf m) hread

/-- The same operations, transactions and mandate budgets. -/
structure SameBooks (s s' : Store) : Prop where
  operations : s'.operations = s.operations
  transactions : s'.transactions = s.transactions
  budgets : budgets s' = budgets s

namespace SameBooks

variable {s s' s'' : Store}

theorem refl (s : Store) : SameBooks s s := ⟨rfl, rfl, rfl⟩

theorem trans (h : SameBooks s s') (h' : SameBooks s' s'') : SameBooks s s'' :=
  ⟨h'.operations.trans h.operations, h'.transactions.trans h.transactions,
    h'.budgets.trans h.budgets⟩

theorem symm (h : SameBooks s s') : SameBooks s' s :=
  ⟨h.operations.symm, h.transactions.symm, h.budgets.symm⟩

theorem mandate (h : SameBooks s s') (id : String) :
    (s'.mandates.find? id).map unversioned = (s.mandates.find? id).map unversioned := by
  have hfind (s : Store) : (WebhookReplay.budgets s).find? id =
      (s.mandates.find? id).map unversioned := Table.find?_mapRows key_unversioned _ _
  rw [← hfind, ← hfind, h.budgets]

/-- Books that have the same mandate rows have them under the same ids. -/
theorem find_mandate (h : SameBooks s s') {id : String} {m : Mandate}
    (hm : s.mandates.find? id = some m) :
    ∃ m', s'.mandates.find? id = some m' ∧ m'.id = m.id ∧
      m'.currentAggregateSpend = m.currentAggregateSpend ∧ m'.reservedSpend = m.reservedSpend := by
  have hsame := h.mandate id
  rw [hm] at hsame
  obtain ⟨m', hm', he⟩ := Option.map_eq_some_iff.mp hsame
  have hid : (unversioned m').id = (unversioned m).id := by rw [he]
  have hspend : (unversioned m').currentAggregateSpend = (unversioned m).currentAggregateSpend := by
    rw [he]
  have hreserved : (unversioned m').reservedSpend = (unversioned m).reservedSpend := by rw [he]
  exact ⟨m', hm', hid, hspend, hreserved⟩

/-- The webhook records are no part of the books. -/
theorem withRecords (s : Store) (records : Table WebhookEvent) :
    SameBooks s (withRecords s records) := ⟨rfl, rfl, rfl⟩

end SameBooks

/-! ### What the handlers read -/

/-- Both computations fail alike, or both return with the same books. -/
inductive Alike : Except WebhookFault (Store × List Event) →
    Except WebhookFault (Store × List Event) → Prop
  | failed (fault : WebhookFault) : Alike (.error fault) (.error fault)
  | returned {done done' : Store × List Event} (h : SameBooks done.1 done'.1) :
      Alike (.ok done) (.ok done')

section Congruence

variable {env : Platform} {s s' : Store}

/-- A mandate that differs in its version only. -/
def SameBudget (m m' : Mandate) : Prop := unversioned m' = unversioned m

theorem counterRelation_sameBudget : CounterRelation SameBudget := by
  refine ⟨?_, ?_, ?_, ?_⟩
  · intro m m' h
    have hid : (unversioned m').id = (unversioned m).id := by rw [h]
    exact hid
  · intro m m' h
    have hcommitted : (unversioned m').currentAggregateSpend =
        (unversioned m).currentAggregateSpend := by rw [h]
    exact hcommitted
  · intro m m' h
    have hreserved : (unversioned m').reservedSpend = (unversioned m).reservedSpend := by rw [h]
    exact hreserved
  · intro m m' committed reserved h
    have hwrite : { unversioned m' with
        currentAggregateSpend := committed, reservedSpend := reserved } =
          { unversioned m with
            currentAggregateSpend := committed, reservedSpend := reserved } := by rw [h]
    exact hwrite

theorem sameBooks_iff :
    SameBooks s s' ↔ Corresponds SameBudget (fun _ _ => True) s s' := by
  have hrows : budgets s' = budgets s ↔
      List.Forall₂ SameBudget s.mandates.rows s'.mandates.rows := by
    have hview : List.Forall₂ SameBudget s.mandates.rows s'.mandates.rows ↔
        List.Forall₂ Eq (s'.mandates.rows.map unversioned) (s.mandates.rows.map unversioned) := by
      rw [List.forall₂_map_left_iff, List.forall₂_map_right_iff]
      exact ⟨List.Forall₂.flip, List.Forall₂.flip⟩
    rw [hview, List.forall₂_eq_eq_eq]
    exact ⟨congrArg Table.rows, fun h => Table.ext h⟩
  constructor
  · intro h
    exact ⟨h.operations, h.transactions, hrows.mp h.budgets, trivial⟩
  · intro h
    exact ⟨h.operations, h.transactions, hrows.mpr h.mandates⟩

/-- **The handlers read nothing but the books.** -/
theorem process_alike (h : SameBooks s s') (eventType eventData : Json) :
    Alike (processDomainWebhookEvent env eventType eventData s)
      (processDomainWebhookEvent env eventType eventData s') := by
  have hstep := @process_congr _ _ env s s' counterRelation_sameBudget (sameBooks_iff.mp h)
    eventType eventData
  generalize processDomainWebhookEvent env eventType eventData s = x at hstep ⊢
  generalize processDomainWebhookEvent env eventType eventData s' = x' at hstep ⊢
  cases hstep with
  | failed fault => exact .failed fault
  | returned hdone => exact .returned (sameBooks_iff.mpr hdone.1)

end Congruence

/-! ### What the handlers do the second time -/

section Again

variable {env : Platform} {s : Store} {payload : Json} {eventType : String}
  {done : Store × List Event}

/-- An UPDATE of all transactions of an order keeps the query by that order. -/
theorem transactionsByOrder_updated (s : Store) (orderId : String) (f : Transaction → Transaction)
    (hf : ∀ tx, (f tx).gatewayOrderId = tx.gatewayOrderId) :
    (s.updateTransactions (fun tx => tx.gatewayOrderId = some orderId) f).transactionsByOrder
      orderId = (s.transactionsByOrder orderId).map f := by
  unfold Store.updateTransactions Store.transactionsByOrder
  dsimp only
  induction s.transactions with
  | nil => rfl
  | cons tx txs ih =>
    by_cases htx : tx.gatewayOrderId = some orderId
    · simp only [List.map_cons, htx, decide_true, if_true, List.filter_cons, hf] at ih ⊢
      rw [ih]
    · simp only [List.map_cons, List.filter_cons, htx, decide_false, Bool.false_eq_true,
        if_false]
      exact ih

/-- After a settlement the order's query finds the settled rows. -/
theorem settled_row {reference : Json} {orderId : String} {tx : Transaction}
    {op : FinancialOperation} {b : Store} {f : FinancialOperation → FinancialOperation}
    {hf : ∀ r, Keyed.key (f r) = Keyed.key r} {g : Transaction → Transaction} {e : AuditEvent}
    (h : Resolved env s reference s.transactionsByOrder orderId tx op)
    (hops : b.operations = s.operations) (htxs : b.transactions = s.transactions)
    (horder : ∀ tx, (g tx).gatewayOrderId = tx.gatewayOrderId)
    (hoperation : (g tx).operationId = tx.operationId) :
    withOperation (((b.updateOperation op.id f hf).updateTransactions
        (fun tx => tx.gatewayOrderId = some orderId) g).audit e)
      ((((b.updateOperation op.id f hf).updateTransactions
        (fun tx => tx.gatewayOrderId = some orderId) g).audit e).transactionsByOrder orderId) =
      .ok (some (g tx, f op)) := by
  have hkey : op.id = tx.operationId := Table.key_of_find? h.found
  refine withOperation_eq_some.mpr ⟨?_, ?_⟩
  · refine Eq.trans (transactionsByOrder_updated _ orderId g horder) ?_
    have hsame : (b.updateOperation op.id f hf).transactionsByOrder orderId =
        s.transactionsByOrder orderId := by
      show b.transactions.filter _ = s.transactions.filter _
      rw [htxs]
    rw [hsame, h.unique]
    rfl
  · show (b.operations.modify op.id f hf).find? (g tx).operationId = some (f op)
    rw [hoperation, hops, hkey, Table.find?_modify_self, h.found]
    rfl

theorem captureBudget_operations (op : FinancialOperation) (s : Store) :
    (captureBudget op s).1.operations = s.operations := by
  unfold captureBudget
  split
  · rfl
  · split <;> rfl

theorem failureBudget_operations (op : FinancialOperation) (s : Store) :
    (failureBudget op s).1.operations = s.operations := by
  unfold failureBudget
  split
  · rfl
  · split <;> rfl

/-- A captured operation is not captured again. -/
theorem captured_again (h : handlePaymentCapturedEvent env payload eventType s = .ok done) :
    handlePaymentCapturedEvent env payload eventType done.1 = .ok (done.1, []) := by
  rcases handlePaymentCapturedEvent_spec h with
    rfl | ⟨refs, orderId, tx, op, gatewayPaymentId, hrefs, hres, -, -, rfl⟩
  · exact h
  · have hrow : withOperation (capture op eventType orderId gatewayPaymentId s).1
        ((capture op eventType orderId gatewayPaymentId s).1.transactionsByOrder orderId) =
          .ok (some ({ tx with status := .captured, gatewayPaymentId }, op.moveTo .succeeded)) :=
      settled_row hres (captureBudget_operations op s) (captureBudget_transactions op s)
        (fun _ => rfl) rfl
    unfold handlePaymentCapturedEvent
    rw [hrefs]
    simp only [bind, Except.bind, hres.truthy, Bool.not_true, Bool.false_eq_true, if_false,
      queryText_eq_ok.mpr hres.text, hrow]
    rfl

/-- An operation that has failed does not fail again. -/
theorem failed_again (h : handlePaymentFailedEvent env payload eventType s = .ok done) :
    handlePaymentFailedEvent env payload eventType done.1 = .ok (done.1, []) := by
  rcases handlePaymentFailedEvent_spec h with
    rfl | ⟨refs, orderId, tx, op, errorMessage, hrefs, hres, -, -, rfl⟩
  · exact h
  · have hrow : withOperation (failPayment op eventType orderId errorMessage s).1
        ((failPayment op eventType orderId errorMessage s).1.transactionsByOrder orderId) =
          .ok (some ({ tx with status := .failed }, op.moveToWith .failed errorMessage)) :=
      settled_row hres (failureBudget_operations op s) (failureBudget_transactions op s)
        (fun _ => rfl) rfl
    unfold handlePaymentFailedEvent
    rw [hrefs]
    simp only [bind, Except.bind, hres.truthy, Bool.not_true, Bool.false_eq_true, if_false,
      queryText_eq_ok.mpr hres.text, hrow]
    rfl

end Again

/-! ### The deliveries -/

/-- `event_data.get("event_id")` and `event_data.get("event", "unknown")`. -/
def givenId (fields : Dict) : Json := dictGet fields "event_id" .null

def givenType (fields : Dict) : Json := dictGet fields "event" (.str "unknown")

/-- A body that decodes to an object and is signed. -/
structure Signed (env : Platform) (settings : Settings) (rawBody signature : String)
    (fields : Dict) : Prop where
  signed : verifyDelivery env settings ⟨rawBody, signature, ""⟩ = .ok ()
  body : env.jsonLoads rawBody = some (.obj fields)

/-- One delivery, which invents an event id in case the body brings none. -/
def delivery (rawBody signature freshEventId : String) : Action :=
  .webhook ⟨rawBody, signature, freshEventId⟩

/-- The event's handler by itself; one that fails changes nothing. -/
def handled (env : Platform) (fields : Dict) (s : Store) : Store :=
  match processDomainWebhookEvent env (givenType fields) (.obj fields) s with
  | .ok done => done.1
  | .error _ => s

/-- What one delivery of the body does. -/
inductive Attempt (env : Platform) (fields : Dict) (s : Store) (freshEventId : String) :
    Store → Prop
  | unreadable {fault : SqlFault}
      (hid : env.bindText ((givenId fields).orElse (.str freshEventId)) = .error fault) :
      Attempt env fields s freshEventId s
  | duplicate {eventId : String} {record : WebhookEvent}
      (hid : env.bindText ((givenId fields).orElse (.str freshEventId)) = .ok eventId)
      (hfind : s.webhookEvents.find? eventId = some record) (hdone : record.status = "PROCESSED") :
      Attempt env fields s freshEventId s
  | untyped (htype : ∀ text, givenType fields ≠ .str text) : Attempt env fields s freshEventId s
  | processed {eventId : String} {records records' : Table WebhookEvent}
      {done : Store × List Event}
      (hid : env.bindText ((givenId fields).orElse (.str freshEventId)) = .ok eventId)
      (hnew : ∀ record, s.webhookEvents.find? eventId = some record → record.status ≠ "PROCESSED")
      (hdone : processDomainWebhookEvent env (givenType fields) (.obj fields)
        (withRecords s records) = .ok done)
      (hrecord : ∃ record, records'.find? eventId = some record ∧ record.status = "PROCESSED")
      (hothers : ∀ id, id ≠ eventId → records'.find? id = s.webhookEvents.find? id) :
      Attempt env fields s freshEventId (withRecords done.1 records')
  | failed {eventId : String} {fault : WebhookFault} {records records' : Table WebhookEvent}
      (hid : env.bindText ((givenId fields).orElse (.str freshEventId)) = .ok eventId)
      (hnew : ∀ record, s.webhookEvents.find? eventId = some record → record.status ≠ "PROCESSED")
      (hfault : processDomainWebhookEvent env (givenType fields) (.obj fields)
        (withRecords s records) = .error fault)
      (hothers : ∀ id, id ≠ eventId → records'.find? id = s.webhookEvents.find? id) :
      Attempt env fields s freshEventId (withRecords s records')

section Deliveries

variable {env : Platform} {settings : Settings} {rawBody signature freshEventId : String}
  {fields : Dict} {s s' : Store}

theorem handled_alike (h : SameBooks s s') :
    SameBooks (handled env fields s) (handled env fields s') := by
  have halike := @process_alike env s s' h (givenType fields) (.obj fields)
  unfold handled
  generalize processDomainWebhookEvent env (givenType fields) (.obj fields) s = x at halike ⊢
  generalize processDomainWebhookEvent env (givenType fields) (.obj fields) s' = x' at halike ⊢
  cases halike with
  | failed fault => exact h
  | returned h => exact h

theorem processed_records {eventType eventData : Json} {done : Store × List Event}
    (h : Processed env eventData s eventType done) : done.1.webhookEvents = s.webhookEvents := by
  cases h with
  | ignored => rfl
  | @captured _ _ _ _ _ op _ _ _ _ _ _ _ =>
    show (captureBudget op s).1.webhookEvents = s.webhookEvents
    unfold captureBudget
    split
    · rfl
    · split <;> rfl
  | @failed _ _ _ _ _ op _ _ _ _ _ _ _ =>
    show (failureBudget op s).1.webhookEvents = s.webhookEvents
    unfold failureBudget
    split
    · rfl
    · split <;> rfl
  | refunded => rfl

/-- The record of an attempt that is processed: under its id, beside the old ones. -/
theorem recordDelivery_record {delivery : WebhookDelivery} {eventId : String}
    {eventType eventData : Json} {recorded : WebhookEvent × Store}
    (h : recordDelivery env delivery eventId eventType eventData s = .ok recorded) :
    ∃ records, recorded.2 = withRecords s records ∧ recorded.1.eventId = eventId ∧
      records.find? eventId = some recorded.1 ∧
      ∀ id, id ≠ eventId → records.find? id = s.webhookEvents.find? id := by
  unfold recordDelivery at h
  split at h
  · rename_i existing hfind
    cases h
    refine ⟨_, rfl, Table.key_of_find? hfind, ?_, fun id hid => ?_⟩
    · show (s.webhookEvents.modify eventId Record.retried).find? eventId = _
      rw [Table.find?_modify_self, hfind]
      rfl
    · exact Table.find?_modify_of_ne _ _ _ hid
  · obtain ⟨text, -, h⟩ := bind_eq_ok.mp h
    obtain ⟨records, hinsert, h⟩ := bind_eq_ok.mp h
    rw [orRefuse_eq_ok] at hinsert
    cases h
    refine ⟨records, rfl, rfl, Table.find?_insert_self hinsert, fun id hid => ?_⟩
    rw [Table.find?_insert hinsert]
    exact if_neg hid

/-- Only the event type can keep an attempt from being recorded. -/
theorem recordDelivery_error {delivery : WebhookDelivery} {eventId : String}
    {eventType eventData : Json} {refusal : Refusal}
    (h : recordDelivery env delivery eventId eventType eventData s = .error refusal) :
    ∀ text, eventType ≠ .str text := by
  rintro text rfl
  unfold recordDelivery at h
  split at h
  · cases h
  · rename_i hfind
    cases hinsert : s.webhookEvents.insert (newRecord env delivery eventId text eventData) with
    | none =>
      obtain ⟨record, hrecord⟩ := Table.insert_eq_none_iff.mp hinsert
      have hfound : s.webhookEvents.find? eventId = some record := hrecord
      rw [hfind] at hfound
      cases hfound
    | some records =>
      simp only [bodyText, bindText_str, Except.mapError, bind, Except.bind, hinsert,
        orRefuse] at h
      cases h

/-- The query for a record that was processed before. -/
theorem any_processed_iff {eventId : String} :
    (s.webhookEvents.find? eventId).any (fun existing => existing.status = "PROCESSED") = true ↔
      ∃ record, s.webhookEvents.find? eventId = some record ∧ record.status = "PROCESSED" := by
  simp only [Option.any_eq_true, decide_eq_true_eq]

/-- **A signed delivery** of a typed id is ignored, or recorded and settled. -/
theorem handleRazorpayWebhook_of_signed (h : Signed env settings rawBody signature fields)
    {eventId : String}
    (hid : env.bindText ((givenId fields).orElse (.str freshEventId)) = .ok eventId) :
    handleRazorpayWebhook env settings ⟨rawBody, signature, freshEventId⟩ s =
      if (s.webhookEvents.find? eventId).any (fun existing => existing.status = "PROCESSED") then
        .ok ⟨⟨"DUPLICATE_IGNORED", eventId, none⟩, s, []⟩
      else
        recordDelivery env ⟨rawBody, signature, freshEventId⟩ eventId (givenType fields)
            (.obj fields) s >>= fun recorded =>
          settleDelivery env (givenType fields) (.obj fields) recorded.1 recorded.2 := by
  have hverify : verifyDelivery env settings ⟨rawBody, signature, freshEventId⟩ = .ok () := h.signed
  have hgiven : bodyAttribute (.obj fields) "event_id" .null = .ok (givenId fields) := rfl
  have htype : bodyAttribute (.obj fields) "event" (.str "unknown") = .ok (givenType fields) := rfl
  unfold handleRazorpayWebhook
  simp only [hverify, h.body, hgiven, htype, hid, bind, Except.bind, orRefuse, bodyText,
    Except.mapError]
  rfl

/-- A signed delivery of an id that is no text is refused. -/
theorem handleRazorpayWebhook_of_untyped (h : Signed env settings rawBody signature fields)
    {fault : SqlFault}
    (hid : env.bindText ((givenId fields).orElse (.str freshEventId)) = .error fault) :
    ∃ refusal, handleRazorpayWebhook env settings ⟨rawBody, signature, freshEventId⟩ s =
      .error refusal := by
  have hverify : verifyDelivery env settings ⟨rawBody, signature, freshEventId⟩ = .ok () := h.signed
  have hgiven : bodyAttribute (.obj fields) "event_id" .null = .ok (givenId fields) := rfl
  unfold handleRazorpayWebhook
  simp only [hverify, h.body, hgiven, hid, bind, Except.bind, orRefuse, bodyText, Except.mapError]
  exact ⟨_, rfl⟩

/-- **Every delivery is one of these attempts.** -/
theorem delivery_attempt (h : Signed env settings rawBody signature fields) (s : Store)
    (freshEventId : String) :
    Attempt env fields s freshEventId
      (perform env settings s (delivery rawBody signature freshEventId)).1 := by
  show Attempt env fields s freshEventId
    (outcome s (handleRazorpayWebhook env settings ⟨rawBody, signature, freshEventId⟩ s)).1
  cases hid : env.bindText ((givenId fields).orElse (.str freshEventId)) with
  | error fault =>
    obtain ⟨refusal, hrefused⟩ := handleRazorpayWebhook_of_untyped (s := s) h hid
    rw [hrefused]
    exact .unreadable hid
  | ok eventId =>
    rw [handleRazorpayWebhook_of_signed h hid]
    by_cases hany : (s.webhookEvents.find? eventId).any
        (fun existing => existing.status = "PROCESSED") = true
    · obtain ⟨record, hfind, hstatus⟩ := any_processed_iff.mp hany
      rw [if_pos hany]
      exact .duplicate hid hfind hstatus
    · have hnew : ∀ record, s.webhookEvents.find? eventId = some record →
          record.status ≠ "PROCESSED" :=
        fun record hfind hstatus => hany (any_processed_iff.mpr ⟨record, hfind, hstatus⟩)
      rw [if_neg hany]
      cases hrecord : recordDelivery env ⟨rawBody, signature, freshEventId⟩ eventId
          (givenType fields) (.obj fields) s with
      | error refusal => exact .untyped (recordDelivery_error hrecord)
      | ok recorded =>
        obtain ⟨records, hstore, hkey, hfind, hothers⟩ := recordDelivery_record hrecord
        obtain ⟨record, s₁⟩ := recorded
        dsimp only [bind, Except.bind] at hstore hkey hfind ⊢
        subst hstore
        unfold settleDelivery
        cases hdone : processDomainWebhookEvent env (givenType fields) (.obj fields)
            (withRecords s records) with
        | error fault =>
          cases fault with
          | raised text =>
            refine .failed hid hnew hdone fun id hne => ?_
            rw [hkey]
            exact (Table.find?_modify_of_ne _ _ _ hne).trans (hothers id hne)
          | aborted =>
            exact @Attempt.failed env fields s freshEventId _ _ records s.webhookEvents hid hnew hdone
              fun _ _ => rfl
        | ok done =>
          obtain ⟨s₂, events⟩ := done
          have hsame : s₂.webhookEvents = records :=
            processed_records (processDomainWebhookEvent_spec hdone)
          refine .processed hid hnew hdone ⟨Record.succeeded record, ?_, rfl⟩ fun id hne => ?_
          · rw [hkey, hsame, Table.find?_modify_self, hfind]
            rfl
          · rw [hkey, hsame, Table.find?_modify_of_ne _ _ _ hne]
            exact hothers id hne

/-! Where replays come to rest. -/

/-- The event's handler has nothing left to do. -/
def Quiet (env : Platform) (fields : Dict) (s : Store) : Prop :=
  SameBooks s (handled env fields s)

theorem Quiet.alike (h : Quiet env fields s) (hsame : SameBooks s s') : Quiet env fields s' :=
  hsame.symm.trans (h.trans (handled_alike hsame))

theorem quiet_of_error {fault : WebhookFault}
    (h : processDomainWebhookEvent env (givenType fields) (.obj fields) s = .error fault) :
    Quiet env fields s := by
  unfold Quiet handled
  rw [h]
  exact .refl s

/-- An event type that is no text has no handler. -/
theorem quiet_of_untyped (h : ∀ text, givenType fields ≠ .str text) : Quiet env fields s := by
  cases hdone : processDomainWebhookEvent env (givenType fields) (.obj fields) s with
  | error fault => exact quiet_of_error hdone
  | ok done =>
    have hsame : done.1 = s := by
      have hspec := processDomainWebhookEvent_spec hdone
      generalize hty : givenType fields = eventType at h hspec
      cases hspec with
      | ignored => rfl
      | captured => exact absurd rfl (h _)
      | failed => exact absurd rfl (h _)
      | refunded => exact absurd rfl (h _)
    unfold Quiet handled
    rw [hdone]
    dsimp only
    rw [hsame]
    exact .refl s

theorem handled_of_ok {done : Store × List Event}
    (h : processDomainWebhookEvent env (givenType fields) (.obj fields) s = .ok done) :
    handled env fields s = done.1 := by
  unfold handled
  rw [h]

/-- An attempt leaves the books alone or does what the handler does. -/
theorem Attempt.books (h : Attempt env fields s freshEventId s') :
    SameBooks s s' ∨ SameBooks (handled env fields s) s' := by
  cases h with
  | unreadable => exact .inl (.refl s)
  | duplicate => exact .inl (.refl s)
  | untyped => exact .inl (.refl s)
  | @processed _ records records' done _ _ hdone _ _ =>
    have hsame := @handled_alike env fields _ _ (SameBooks.withRecords s records)
    rw [handled_of_ok hdone] at hsame
    exact .inr (hsame.trans (.withRecords _ _))
  | failed => exact .inl (.withRecords s _)

/-- A quiet store stays as it is. -/
theorem Attempt.quiet (h : Attempt env fields s freshEventId s') (hquiet : Quiet env fields s) :
    SameBooks s s' ∧ Quiet env fields s' := by
  have hsame : SameBooks s s' := by
    rcases h.books with hsame | hsame
    · exact hsame
    · exact SameBooks.trans hquiet hsame
  exact ⟨hsame, hquiet.alike hsame⟩

/-- The refund of the body is there to be taken off, and taking it off again moves the counter. -/
structure RefundMoves (env : Platform) (fields : Dict) (s : Store) (refs : Json × Json)
    (paymentId : String) (tx : Transaction) (op : FinancialOperation) (mandate : Mandate)
    (first second : ℤ) : Prop where
  read : ∃ payload, (Json.obj fields).get "payload" (.obj []) = .ok payload ∧
    refundReferences payload = .ok refs
  resolved : Resolved env s refs.1 s.transactionsByPayment paymentId tx op
  found : s.mandates.find? op.mandateId = some mandate
  taken : env.minus mandate.currentAggregateSpend refs.2 = .ok first
  again : env.minus first refs.2 = .ok second
  moves : second ≠ first

/-- A refund whose body brings no event id, and whose replay moves the counter. -/
def Unguarded (env : Platform) (fields : Dict) (s : Store) : Prop :=
  (givenId fields).truthy = false ∧ givenType fields = .str "refund.processed" ∧
    ∃ refs paymentId tx op mandate first second,
      RefundMoves env fields s refs paymentId tx op mandate first second

/-- A capture and a failure do nothing the second time. -/
theorem process_again {eventType eventData : Json} {done : Store × List Event}
    (h : processDomainWebhookEvent env eventType eventData s = .ok done)
    (hne : eventType ≠ .str "refund.processed") :
    processDomainWebhookEvent env eventType eventData done.1 = .ok (done.1, []) := by
  obtain ⟨payload, hpayload, hdone⟩ := bind_eq_ok.mp h
  refine bind_eq_ok.mpr ⟨payload, hpayload, ?_⟩
  cases eventType with
  | str eventType =>
    dsimp only at hdone ⊢
    by_cases hcaptured : eventType = "order.paid" ∨ eventType = "payment.captured"
    · rw [if_pos hcaptured] at hdone ⊢
      exact captured_again hdone
    · rw [if_neg hcaptured] at hdone ⊢
      by_cases hfailed : eventType = "payment.failed"
      · rw [if_pos hfailed] at hdone ⊢
        exact failed_again hdone
      · rw [if_neg hfailed] at hdone ⊢
        have hrefund : ¬ eventType = "refund.processed" := fun he => hne (congrArg Json.str he)
        rw [if_neg hrefund]
        rfl
  | null => rfl
  | bool => rfl
  | int => rfl
  | float => rfl
  | arr => rfl
  | obj => rfl

/-- A refund that leaves the counter where it is. -/
theorem sameBooks_withCommitted {id : String} {m : Mandate} (hm : s.mandates.find? id = some m) :
    SameBooks s (s.updateMandate id (Mandate.withCommitted m.currentAggregateSpend)) := by
  refine ⟨rfl, rfl, ?_⟩
  have hrow : (budgets s).find? id = some (unversioned m) := by
    rw [budgets, Table.find?_mapRows, hm]
    rfl
  rw [budgets_updateMandate s id fun _ => rfl]
  exact Table.modify_of_eq hrow rfl

/-- **What a handler has done it does not do again**, unless it is the refund. -/
theorem quiet_handled (h : givenType fields = .str "refund.processed" →
      ∀ refs paymentId tx op mandate first second,
        ¬ RefundMoves env fields s refs paymentId tx op mandate first second) :
    Quiet env fields (handled env fields s) := by
  cases hdone : processDomainWebhookEvent env (givenType fields) (.obj fields) s with
  | error fault =>
    have hsame : handled env fields s = s := by
      unfold handled
      rw [hdone]
    rw [hsame]
    exact quiet_of_error hdone
  | ok done =>
    rw [handled_of_ok hdone]
    by_cases hrefund : givenType fields = .str "refund.processed"
    swap
    · have hagain := process_again hdone hrefund
      unfold Quiet
      rw [handled_of_ok hagain]
      exact .refl _
    cases hsecond : processDomainWebhookEvent env (givenType fields) (.obj fields) done.1 with
    | error fault => exact quiet_of_error hsecond
    | ok done' =>
      have hfirst := processDomainWebhookEvent_spec hdone
      have hspec := processDomainWebhookEvent_spec hsecond
      unfold Quiet
      rw [handled_of_ok hsecond]
      rw [hrefund] at hfirst hspec
      have hnotCaptured : ¬ ("refund.processed" = "order.paid" ∨
          "refund.processed" = "payment.captured") := by decide
      have hnotFailed : ¬ "refund.processed" = "payment.failed" := by decide
      cases hspec with
      | ignored => exact .refl _
      | captured htype => exact absurd htype hnotCaptured
      | failed htype => exact absurd htype hnotFailed
      | @refunded payload refs paymentId tx op mandate second hpayload hrefs hres hmandate hminus =>
        have hkey : mandate.id = op.mandateId := Table.key_of_find? hmandate
        cases hfirst with
        | ignored =>
          -- the first refund did nothing, and the second is the first
          have hsame : s = s.updateMandate mandate.id (Mandate.withCommitted second) :=
            congrArg Prod.fst (Except.ok.inj (hdone.symm.trans hsecond))
          show SameBooks s (s.updateMandate mandate.id (Mandate.withCommitted second))
          rw [← hsame]
          exact .refl s
        | captured htype => exact absurd htype hnotCaptured
        | failed htype => exact absurd htype hnotFailed
        | @refunded payload₀ refs₀ paymentId₀ tx₀ op₀ mandate₀ first hpayload₀ hrefs₀ hres₀
            hmandate₀ hminus₀ =>
          rw [hpayload₀] at hpayload
          cases hpayload
          rw [hrefs₀] at hrefs
          cases hrefs
          have htext := hres₀.text
          rw [hres.text] at htext
          cases htext
          have htx : [tx] = [tx₀] := Eq.trans hres.unique.symm hres₀.unique
          cases htx
          have hop : some op = some op₀ := Eq.trans hres.found.symm hres₀.found
          cases hop
          have hkey₀ : mandate₀.id = op.mandateId := Table.key_of_find? hmandate₀
          have hself : (s.updateMandate mandate₀.id (Mandate.withCommitted first)).mandates.find?
              mandate₀.id = some (Mandate.withCommitted first mandate₀) := by
            show (s.mandates.modify mandate₀.id _).find? mandate₀.id = _
            rw [Table.find?_modify_self, hkey₀, hmandate₀]
            rfl
          rw [← hkey₀, hself] at hmandate
          cases hmandate
          have hstays : second = first := by
            by_contra hmoves
            exact h hrefund _ _ _ _ _ _ _
              ⟨⟨_, hpayload₀, hrefs₀⟩, hres₀, hmandate₀, hminus₀, hminus, hmoves⟩
          rw [hstays]
          exact sameBooks_withCommitted hself

theorem handled_of_refund {refs : Json × Json} {paymentId : String} {tx : Transaction}
    {op : FinancialOperation} {mandate : Mandate} {committed : ℤ} {payload : Json}
    (htype : givenType fields = .str "refund.processed")
    (hpayload : (Json.obj fields).get "payload" (.obj []) = .ok payload)
    (hrefs : refundReferences payload = .ok refs)
    (hres : Resolved env s refs.1 s.transactionsByPayment paymentId tx op)
    (hmandate : s.mandates.find? op.mandateId = some mandate)
    (hminus : env.minus mandate.currentAggregateSpend refs.2 = .ok committed) :
    handled env fields s = s.updateMandate mandate.id (Mandate.withCommitted committed) := by
  have hrow : withOperation s (s.transactionsByPayment paymentId) = .ok (some (tx, op)) :=
    withOperation_eq_some.mpr ⟨hres.unique, hres.found⟩
  have hvalue : getValue (.obj fields) "payload" (.obj []) = .ok payload := by
    rw [getValue, hpayload]
    rfl
  have hrefund : handleRefundProcessedEvent env payload s =
      .ok (s.updateMandate mandate.id (Mandate.withCommitted committed),
        [.credited mandate.id (mandate.currentAggregateSpend - committed)]) := by
    unfold handleRefundProcessedEvent
    rw [hrefs]
    simp only [bind, Except.bind, hres.truthy, Bool.not_true, Bool.false_eq_true, if_false,
      queryText_eq_ok.mpr hres.text, hrow, hmandate, hminus]
    rfl
  have hdone : processDomainWebhookEvent env (givenType fields) (.obj fields) s =
      .ok (s.updateMandate mandate.id (Mandate.withCommitted committed),
        [.credited mandate.id (mandate.currentAggregateSpend - committed)]) := by
    rw [htype]
    exact bind_eq_ok.mpr ⟨payload, hvalue, hrefund⟩
  exact handled_of_ok hdone

/-- A replay of an unguarded refund moves the counter again. -/
theorem not_quiet_of_unguarded (h : Unguarded env fields s) :
    ¬ Quiet env fields (handled env fields s) := by
  obtain ⟨-, htype, refs, paymentId, tx, op, mandate, first, second, hm⟩ := h
  obtain ⟨payload, hpayload, hrefs⟩ := hm.read
  have hkey : mandate.id = op.mandateId := Table.key_of_find? hm.found
  have hself : s.mandates.find? mandate.id = some mandate := hkey ▸ hm.found
  have hfirst := handled_of_refund htype hpayload hrefs hm.resolved hm.found hm.taken
  have hrow : (s.updateMandate mandate.id (Mandate.withCommitted first)).mandates.find?
      mandate.id = some (Mandate.withCommitted first mandate) := by
    show (s.mandates.modify mandate.id _).find? mandate.id = _
    rw [Table.find?_modify_self, hself]
    rfl
  have hres : Resolved env (s.updateMandate mandate.id (Mandate.withCommitted first)) refs.1
      (s.updateMandate mandate.id (Mandate.withCommitted first)).transactionsByPayment
      paymentId tx op :=
    ⟨hm.resolved.truthy, hm.resolved.text, hm.resolved.unique, hm.resolved.found⟩
  have hfound : (s.updateMandate mandate.id (Mandate.withCommitted first)).mandates.find?
      op.mandateId = some (Mandate.withCommitted first mandate) := by
    rw [← hkey]
    exact hrow
  have hsecond := handled_of_refund htype hpayload hrefs hres hfound hm.again
  rw [hfirst]
  intro hquiet
  unfold Quiet at hquiet
  rw [hsecond] at hquiet
  obtain ⟨m, hfind, -, hspend, -⟩ := hquiet.find_mandate hrow
  have hrow' : ((s.updateMandate mandate.id (Mandate.withCommitted first)).updateMandate
      (Mandate.withCommitted first mandate).id (Mandate.withCommitted second)).mandates.find?
        mandate.id = some (Mandate.withCommitted second (Mandate.withCommitted first mandate)) := by
    show ((s.updateMandate mandate.id (Mandate.withCommitted first)).mandates.modify
      mandate.id _).find? mandate.id = _
    rw [Table.find?_modify_self, hrow]
    rfl
  rw [hrow'] at hfind
  cases hfind
  exact hm.moves hspend

/-- A first delivery without an event id runs the handler. -/
theorem Attempt.handled {text : String} (h : Attempt env fields s freshEventId s')
    (hfalsy : (givenId fields).truthy = false) (htype : givenType fields = .str text)
    (hnew : s.webhookEvents.find? freshEventId = none) :
    SameBooks (handled env fields s) s' ∧
      ∀ id, id ≠ freshEventId → s'.webhookEvents.find? id = s.webhookEvents.find? id := by
  have hgiven : (givenId fields).orElse (.str freshEventId) = .str freshEventId := by
    rw [Json.orElse, if_neg (by rw [hfalsy]; decide)]
  cases h with
  | unreadable hid =>
    rw [hgiven] at hid
    cases hid
  | duplicate hid hfind _ =>
    rw [hgiven] at hid
    cases hid
    rw [hnew] at hfind
    cases hfind
  | untyped h => exact absurd htype (h text)
  | @processed eventId records records' done hid _ hdone _ hothers =>
    rw [hgiven] at hid
    cases hid
    have hsame := @handled_alike env fields _ _ (SameBooks.withRecords s records)
    rw [handled_of_ok hdone] at hsame
    exact ⟨hsame.trans (.withRecords _ _), hothers⟩
  | @failed eventId fault records records' hid _ hfault hothers =>
    rw [hgiven] at hid
    cases hid
    have hquiet : Quiet env fields s :=
      (quiet_of_error hfault).alike (SameBooks.withRecords s records).symm
    exact ⟨SameBooks.trans (SameBooks.symm hquiet) (.withRecords _ _), hothers⟩

end Deliveries

/-! ### The replays -/

/-- Event ids that have just been invented: not recorded, and no two the same. -/
def Invented (s : Store) (ids : List String) : Prop :=
  ids.Nodup ∧ ∀ id ∈ ids, s.webhookEvents.find? id = none

/-- However often the body is delivered, the books are as after the first delivery. -/
def ReplaySafe (env : Platform) (settings : Settings) (s : Store) (rawBody signature : String) :
    Prop :=
  ∀ id ids, Invented s (id :: ids) →
    SameBooks ((controlPlane env settings).run s [delivery rawBody signature id])
      ((controlPlane env settings).run s ((id :: ids).map (delivery rawBody signature)))

section Replays

variable {env : Platform} {settings : Settings} {rawBody signature : String} {fields : Dict}
  {s : Store}

/-- Deliveries that all leave the store as it is. -/
def Fixed (env : Platform) (settings : Settings) (rawBody signature : String) (s : Store) : Prop :=
  ∀ id, ((controlPlane env settings).next s (delivery rawBody signature id)) = s

theorem run_fixed (h : Fixed env settings rawBody signature s) (ids : List String) :
    (controlPlane env settings).run s (ids.map (delivery rawBody signature)) = s := by
  induction ids with
  | nil => rfl
  | cons id ids ih =>
    rw [List.map_cons, Machine.run_cons, h id]
    exact ih

theorem run_quiet (hsigned : Signed env settings rawBody signature fields)
    (h : Quiet env fields s) (ids : List String) :
    SameBooks s ((controlPlane env settings).run s (ids.map (delivery rawBody signature))) := by
  induction ids generalizing s with
  | nil => exact .refl s
  | cons id ids ih =>
    obtain ⟨hsame, hquiet⟩ := (delivery_attempt hsigned s id).quiet h
    exact hsame.trans (ih hquiet)

/-- A body that brings an event id brings the same one every time. -/
theorem fixed_of_given (hsigned : Signed env settings rawBody signature fields)
    (htruthy : (givenId fields).truthy = true)
    (hstop : ∀ eventId, env.bindText (givenId fields) = .ok eventId →
      ∃ record, s.webhookEvents.find? eventId = some record ∧ record.status = "PROCESSED") :
    Fixed env settings rawBody signature s := by
  intro id
  have hgiven : (givenId fields).orElse (.str id) = givenId fields := by
    rw [Json.orElse, if_pos htruthy]
  have hattempt := delivery_attempt hsigned s id
  show (perform env settings s (delivery rawBody signature id)).1 = s
  generalize (perform env settings s (delivery rawBody signature id)).1 = s' at hattempt ⊢
  cases hattempt with
  | unreadable => rfl
  | duplicate => rfl
  | untyped => rfl
  | processed hid hnew =>
    rw [hgiven] at hid
    obtain ⟨record, hfind, hstatus⟩ := hstop _ hid
    exact absurd hstatus (hnew record hfind)
  | failed hid hnew =>
    rw [hgiven] at hid
    obtain ⟨record, hfind, hstatus⟩ := hstop _ hid
    exact absurd hstatus (hnew record hfind)

/-- **After one delivery the body has come to rest**, unless it is an unguarded refund. -/
theorem at_rest (hsigned : Signed env settings rawBody signature fields)
    (hguarded : ¬ Unguarded env fields s) {id : String}
    (hnew : s.webhookEvents.find? id = none) :
    Quiet env fields ((controlPlane env settings).next s (delivery rawBody signature id)) ∨
      Fixed env settings rawBody signature
        ((controlPlane env settings).next s (delivery rawBody signature id)) := by
  have hattempt := delivery_attempt hsigned s id
  show Quiet env fields (perform env settings s (delivery rawBody signature id)).1 ∨
    Fixed env settings rawBody signature (perform env settings s (delivery rawBody signature id)).1
  generalize (perform env settings s (delivery rawBody signature id)).1 = s' at hattempt ⊢
  cases htruthy : (givenId fields).truthy with
  | true =>
    have hgiven : (givenId fields).orElse (.str id) = givenId fields := by
      rw [Json.orElse, if_pos htruthy]
    cases hattempt with
    | unreadable hid =>
      rw [hgiven] at hid
      refine .inr (fixed_of_given hsigned htruthy fun eventId hok => ?_)
      rw [hid] at hok
      cases hok
    | duplicate hid hfind hdone =>
      rw [hgiven] at hid
      refine .inr (fixed_of_given hsigned htruthy fun eventId hok => ?_)
      rw [hid] at hok
      cases hok
      exact ⟨_, hfind, hdone⟩
    | untyped h => exact .inl (quiet_of_untyped h)
    | processed hid _ _ hrecord _ =>
      rw [hgiven] at hid
      refine .inr (fixed_of_given hsigned htruthy fun eventId hok => ?_)
      rw [hid] at hok
      cases hok
      exact hrecord
    | failed _ _ hfault _ =>
      exact .inl ((quiet_of_error hfault).alike ⟨rfl, rfl, rfl⟩)
  | false =>
    refine .inl ?_
    by_cases htype : ∃ text, givenType fields = .str text
    · obtain ⟨text, htype⟩ := htype
      obtain ⟨hsame, -⟩ := hattempt.handled htruthy htype hnew
      refine Quiet.alike (quiet_handled fun hrefund refs paymentId tx op mandate first second hm => ?_)
        hsame
      exact hguarded ⟨htruthy, hrefund, refs, paymentId, tx, op, mandate, first, second, hm⟩
    · exact quiet_of_untyped fun text he => htype ⟨text, he⟩

/-- There is always another event id to invent. -/
theorem exists_invented (s : Store) : ∃ first second, Invented s [first, second] := by
  obtain ⟨first, hfirst⟩ := Infinite.exists_notMem_finset
    (s.webhookEvents.rows.map WebhookEvent.eventId).toFinset
  obtain ⟨second, hsecond⟩ := Infinite.exists_notMem_finset
    (insert first (s.webhookEvents.rows.map WebhookEvent.eventId).toFinset)
  have hnone {id : String} (h : id ∉ (s.webhookEvents.rows.map WebhookEvent.eventId).toFinset) :
      s.webhookEvents.find? id = none := by
    refine Table.find?_eq_none_iff.mpr fun record hrecord he => h ?_
    exact List.mem_toFinset.mpr (List.mem_map.mpr ⟨record, hrecord, he⟩)
  rw [Finset.mem_insert, not_or] at hsecond
  refine ⟨first, second, ?_, fun id hid => ?_⟩
  · simpa using fun he : first = second => hsecond.1 he.symm
  · rcases List.mem_cons.mp hid with rfl | hid
    · exact hnone hfirst
    · rw [List.mem_singleton.mp hid]
      exact hnone hsecond.2

end Replays

/-- **Replays are safe exactly where no unguarded refund is replayed.**  A delivery that is signed and
decodes to an object leaves the books as its first copy did, however often it is repeated, unless it
is a refund without an event id that is there to be taken off once more. -/
theorem replay_safe_iff (env : Platform) (settings : Settings) (s : Store)
    (rawBody signature : String) (fields : Dict)
    (hsigned : Signed env settings rawBody signature fields) :
    ReplaySafe env settings s rawBody signature ↔ ¬ Unguarded env fields s := by
  constructor
  · intro hsafe hunguarded
    obtain ⟨first, second, hinvented⟩ := exists_invented s
    have htype := hunguarded.2.1
    obtain ⟨hnodup, hnone⟩ := hinvented
    have hne : second ≠ first := by
      rintro rfl
      simp at hnodup
    obtain ⟨hsame₁, hothers⟩ := (delivery_attempt hsigned s first).handled hunguarded.1 htype
      (hnone first List.mem_cons_self)
    have hnone₂ := (hothers second hne).trans
      (hnone second (List.mem_cons_of_mem _ List.mem_cons_self))
    obtain ⟨hsame₂, -⟩ := (delivery_attempt hsigned _ second).handled hunguarded.1 htype hnone₂
    have hrepeated := hsafe first [second] ⟨hnodup, hnone⟩
    -- both handlers have left the same books
    refine not_quiet_of_unguarded hunguarded ?_
    exact (hsame₁.trans hrepeated).trans (hsame₂.symm.trans (handled_alike hsame₁).symm)
  · intro hguarded id ids hinvented
    rcases at_rest hsigned hguarded (hinvented.2 id List.mem_cons_self) with hquiet | hfixed
    · exact run_quiet hsigned hquiet ids
    · rw [List.map_cons]
      show SameBooks _ ((controlPlane env settings).run ((controlPlane env settings).next s
        (delivery rawBody signature id)) (ids.map (delivery rawBody signature)))
      rw [run_fixed hfixed]
      exact .refl _

/-- A refund of 100 without an event id is delivered twice: 200 are taken off. -/
theorem not_replay_safe_refundA :
    ¬ ReplaySafe Sample.platform Sample.settings
      ((controlPlane Sample.platform Sample.settings).run Sample.store
        [Sample.requestA, Sample.deliver Sample.capturedA])
      Sample.refundA (Sample.platform.hmacSha256Hex Sample.settings.razorpayWebhookSecret
        Sample.refundA) := by
  intro h
  have hsame := h "evt_3" ["evt_4"] ⟨by decide, by decide +kernel⟩
  have hspend := congrArg (Option.map Mandate.currentAggregateSpend) (hsame.mandate "mnd_1")
  revert hspend
  decide +kernel

/-- A capture that brings its event id. -/
theorem replay_safe_capturedA :
    ReplaySafe Sample.platform Sample.settings
      ((controlPlane Sample.platform Sample.settings).run Sample.store [Sample.requestA])
      Sample.capturedA (Sample.platform.hmacSha256Hex Sample.settings.razorpayWebhookSecret
        Sample.capturedA) := by
  have hsigned : verifyDelivery Sample.platform Sample.settings ⟨Sample.capturedA,
      Sample.platform.hmacSha256Hex Sample.settings.razorpayWebhookSecret Sample.capturedA, ""⟩ =
        .ok () := by
    rw [verifyDelivery, if_neg (by decide +kernel)]
    rw [compareDigest, if_pos (by decide +kernel)]
    simp only [bind, Except.bind, decide_true, ensure, if_true]
  refine (replay_safe_iff _ _ _ _ _ _ ⟨hsigned, rfl⟩).mpr fun h => ?_
  exact absurd h.1 (by decide +kernel)

end MandatePlane.WebhookReplay

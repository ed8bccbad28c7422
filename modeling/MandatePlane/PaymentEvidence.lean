import MandatePlane.ControlPlane

/-!
# What a verified payment is evidence of

The signature ties a payment to a gateway order; which operation it settles is taken
from the URL.  A verification is bound to its operation when the order belongs to
the operation and the operation still waits for it.  If all verifications are, and
the gateway gives no order id twice, a signed pair settles one operation, once.
-/

namespace MandatePlane.PaymentEvidence

open DomainModel KeyedTable LabelledRun LedgerView HostEnvironment HandlerPostings
open ControlPlane OperationRoutes RazorpayClient

variable {env : Platform} {settings : Settings} {s s' : Store} {a : Action} {events : List Event}

/-- The order belongs to a transaction of the operation, and the operation is in flight. -/
def Evidenced (s : Store) (op : FinancialOperation) (orderId : String) : Prop :=
  op.status.inFlight = true ∧ ∃ tx ∈ s.transactionsOf op.id, tx.gatewayOrderId = some orderId

/-- The call marks `op` SUCCEEDED and moves its amount. -/
def Settles (env : Platform) (settings : Settings) (s : Store) (operationId : String)
    (payload : PaymentVerifyRequest) (op : FinancialOperation) : Prop :=
  .posted op .succeeded (-op.amount) op.amount ∈
    (controlPlane env settings).log s (.verify operationId payload)

/-- **What a verification takes.**  A call settles the operation its URL names when the signature
is right and the operation has at most one transaction; nothing else is looked at. -/
theorem settles_iff {operationId : String} {payload : PaymentVerifyRequest}
    {op : FinancialOperation} :
    Settles env settings s operationId payload op ↔
      ∃ tx, Verified env settings s operationId payload op tx := by
  constructor
  · intro h
    have hstep := perform_step env settings s (.verify operationId payload)
    have hm : .posted op .succeeded (-op.amount) op.amount ∈
      (perform env settings s (.verify operationId payload)).2 := h
    generalize (perform env settings s (.verify operationId payload)).2 = events at hm hstep
    generalize (perform env settings s (.verify operationId payload)).1 = s' at hstep
    cases hstep with
    | refused => cases hm
    | verified hv =>
      cases List.mem_singleton.mp hm
      exact ⟨_, hv⟩
  · rintro ⟨tx, hv⟩
    show _ ∈ (outcome s (verifyPayment env settings operationId payload s)).2
    have htx : scalarOneOrFail (s.transactionsOf op.id) = .ok tx :=
      scalarOneOrFail_eq_ok.mpr hv.transaction
    have htx' : ∀ f hf e, scalarOneOrFail
        (((s.updateMandate op.mandateId f hf).audit e).transactionsOf op.id) = .ok tx :=
      fun _ _ _ => htx
    unfold verifyPayment
    simp only [bind, Except.bind, hv.found, hv.signed, orRefuse, ensure, if_true, htx', pure,
      Except.pure, outcome, List.mem_singleton]

/-- At most one row is an optional row. -/
theorem exists_toList {l : List Transaction} (h : l.length ≤ 1) :
    ∃ tx : Option Transaction, l = tx.toList := by
  rcases nil_or_singleton h with rfl | ⟨tx, rfl⟩
  · exact ⟨none, rfl⟩
  · exact ⟨some tx, rfl⟩

/-- A call that names one operation with at most one transaction, and is rightly signed. -/
theorem exists_settles {operationId id : String} {payload : PaymentVerifyRequest}
    (hrows : (s.operations.rows.filter fun op => op.operationId = operationId).map
      FinancialOperation.id = [id]) (hone : (s.transactionsOf id).length ≤ 1)
    (hsigned : verifyPaymentSignature env settings payload.razorpayOrderId
      payload.razorpayPaymentId payload.razorpaySignature = .ok true) :
    ∃ op, op.id = id ∧ s.operations.find? id = some op ∧
      Settles env settings s operationId payload op := by
  obtain ⟨op, hop, rfl⟩ := List.map_eq_singleton_iff.mp hrows
  have hfound : s.operationByOperationId operationId = .ok (some op) :=
    scalarOneOrFail_eq_ok.mpr hop
  have hself := (Store.find?_of_operationByOperationId hfound).1
  obtain ⟨tx, htx⟩ := exists_toList hone
  exact ⟨op, rfl, hself, settles_iff.mpr ⟨tx, hself, hfound, hsigned, htx⟩⟩

/-- The operation a verification names is evidenced by the order that was paid. -/
def EvidenceFits (s : Store) (operationId : String) (payload : PaymentVerifyRequest) : Prop :=
  ∀ op, s.operationByOperationId operationId = .ok (some op) → (s.transactionsOf op.id).length ≤ 1 →
    Evidenced s op payload.razorpayOrderId

/-- One call with a right signature settles only what is evidenced exactly if the evidence fits. -/
theorem settles_evidenced_iff {operationId : String} {payload : PaymentVerifyRequest}
    (hsigned : verifyPaymentSignature env settings payload.razorpayOrderId
      payload.razorpayPaymentId payload.razorpaySignature = .ok true) :
    (∀ op, Settles env settings s operationId payload op →
        Evidenced s op payload.razorpayOrderId) ↔ EvidenceFits s operationId payload := by
  constructor
  · intro h op hfound hone
    obtain ⟨tx, htx⟩ := exists_toList hone
    have hself := (Store.find?_of_operationByOperationId hfound).1
    exact h op (settles_iff.mpr ⟨tx, hself, hfound, hsigned, htx⟩)
  · intro h op hs
    obtain ⟨tx, hv⟩ := settles_iff.mp hs
    refine h op hv.found ?_
    rw [hv.transaction]
    cases tx <;> simp

/-! ### Runs -/

/-- A verification whose signature is right finds its evidence. -/
def EvidenceKept (env : Platform) (settings : Settings) (s : Store) : Action → Prop
  | .verify operationId payload =>
    verifyPaymentSignature env settings payload.razorpayOrderId payload.razorpayPaymentId
      payload.razorpaySignature = .ok true → EvidenceFits s operationId payload
  | _ => True

/-- The gateway answers a new order with an id that no transaction has. -/
def FreshOrder (s : Store) (a : Action) : Prop :=
  ∀ gateway order, answers a = some gateway → gateway.createOrder = .ok order →
    ∀ link ∈ links s, link.2 ≠ some order.id

/-- No gateway order belongs to two operations. -/
def UniqueLinks (s : Store) : Prop :=
  ∀ link ∈ links s, ∀ link' ∈ links s, ∀ id, link.2 = some id → link'.2 = some id →
    link.1 = link'.1

theorem uniqueLinks_step (h : Step env settings s a events s') (hfresh : FreshOrder s a)
    (hu : UniqueLinks s) : UniqueLinks s' := by
  rcases h.linked with he | ⟨gateway, hanswers, he | ⟨new, he, hnew⟩⟩
  · unfold UniqueLinks
    rwa [he]
  · unfold UniqueLinks
    rwa [he]
  · have hno : ∀ link ∈ links s, ∀ id, link.2 = some id → new.2 ≠ some id := by
      intro link hm id hid hnewId
      obtain ⟨order, hcreate, rfl⟩ := hnew id hnewId
      exact hfresh gateway order hanswers hcreate link hm hid
    intro link hm link' hm' id hid hid'
    rw [he] at hm hm'
    rcases List.mem_append.mp hm with hm | hm <;> rcases List.mem_append.mp hm' with hm' | hm'
    · exact hu link hm link' hm' id hid hid'
    · rw [List.mem_singleton.mp hm'] at hid'
      exact absurd hid' (hno link hm id hid)
    · rw [List.mem_singleton.mp hm] at hid
      exact absurd hid (hno link' hm' id hid')
    · rw [List.mem_singleton.mp hm, List.mem_singleton.mp hm']

/-- The operation with this id is settled, the order is its own, and orders are unique. -/
structure Spent (id orderId : String) (s : Store) : Prop where
  settled : ∃ op, s.operations.find? id = some op ∧ op.status = .succeeded
  link : (id, some orderId) ∈ links s
  unique : UniqueLinks s

theorem link_of_evidenced {op : FinancialOperation} {orderId : String}
    (h : Evidenced s op orderId) : (op.id, some orderId) ∈ links s := by
  obtain ⟨-, tx, hm, horder⟩ := h
  obtain ⟨hm, hid⟩ := List.mem_filter.mp hm
  refine List.mem_map.mpr ⟨tx, hm, ?_⟩
  rw [linkOf, horder, of_decide_eq_true hid]

theorem evidenced_of_verified {operationId : String} {payload : PaymentVerifyRequest}
    {op : FinancialOperation} {tx : Option Transaction}
    (hv : Verified env settings s operationId payload op tx)
    (hkept : EvidenceKept env settings s (.verify operationId payload)) :
    Evidenced s op payload.razorpayOrderId := by
  refine hkept hv.signed op hv.found ?_
  rw [hv.transaction]
  cases tx <;> simp

/-- A settled operation is not evidenced any more. -/
theorem Spent.not_evidenced {id orderId orderId' : String} (h : Spent id orderId s)
    {op : FinancialOperation} (hself : s.operations.find? op.id = some op)
    (he : Evidenced s op orderId') : op.id ≠ id := by
  rintro rfl
  obtain ⟨op', hop', hstatus⟩ := h.settled
  rw [hself] at hop'
  cases hop'
  rw [Evidenced, hstatus] at he
  cases he.1

/-- **Spent for good.**  A step leaves the order spent and does not post its operation. -/
theorem spent_step {id orderId : String} (h : Step env settings s a events s')
    (hkept : EvidenceKept env settings s a) (hfresh : FreshOrder s a) (hs : Spent id orderId s) :
    Spent id orderId s' ∧ ∀ op target dReserved dCommitted,
      .posted op target dReserved dCommitted ∈ events → op.id ≠ id := by
  obtain ⟨op, hop, hstatus⟩ := hs.settled
  have hterminal : StateMachine.Terminal op.status := by
    rw [hstatus]
    rfl
  obtain ⟨⟨op', hop', hsame⟩, hposted⟩ :=
    h.terminal_kept hop hterminal fun operationId payload op₁ tx ha hv => by
      subst ha
      exact hs.not_evidenced hv.self (evidenced_of_verified hv hkept)
  have hlink : (id, some orderId) ∈ links s' := by
    rcases h.linked with he | ⟨_, _, he | ⟨_, he, -⟩⟩ <;> rw [he]
    · exact hs.link
    · exact hs.link
    · exact List.mem_append_left _ hs.link
  exact ⟨⟨⟨op', hop', hsame.trans hstatus⟩, hlink, uniqueLinks_step h hfresh hs.unique⟩, hposted⟩

/-- A verification spends its order. -/
theorem spent_of_settles {operationId : String} {payload : PaymentVerifyRequest}
    {op : FinancialOperation} (hset : Settles env settings s operationId payload op)
    (hkept : EvidenceKept env settings s (.verify operationId payload)) (hu : UniqueLinks s) :
    Spent op.id payload.razorpayOrderId
      ((controlPlane env settings).next s (.verify operationId payload)) := by
  obtain ⟨tx, hv⟩ := settles_iff.mp hset
  have hlink := link_of_evidenced (evidenced_of_verified hv hkept)
  have h := perform_step env settings s (.verify operationId payload)
  show Spent op.id payload.razorpayOrderId (perform env settings s (.verify operationId payload)).1
  have hm : .posted op .succeeded (-op.amount) op.amount ∈
    (perform env settings s (.verify operationId payload)).2 := hset
  generalize (perform env settings s (.verify operationId payload)).2 = events at hm h
  generalize (perform env settings s (.verify operationId payload)).1 = s' at h ⊢
  cases h with
  | refused => cases hm
  | verified _ hbooks _ _ _ hlinks =>
    cases List.mem_singleton.mp hm
    refine ⟨?_, hlinks ▸ hlink, ?_⟩
    · have hhold : (ledger s').holds.find? op.id =
          some ((operationHold op).moveTo .succeeded) := by
        rw [hbooks, HoldLedger.holds_enter_post, if_pos rfl, holds_find?, hv.self]
        rfl
      rw [holds_find?] at hhold
      obtain ⟨op', hop', hmoved⟩ := Option.map_eq_some_iff.mp hhold
      exact ⟨op', hop', congrArg HoldLedger.Hold.phase hmoved⟩
    · unfold UniqueLinks
      rwa [hlinks]

/-- **Payment evidence.**  A rightly signed call settles only an operation in flight whose order was
paid exactly if the operation it names is one; and in a run of such calls, under a gateway that
gives no order id twice, a paid order settles one operation: nothing posts that operation again,
and no later call settles anything with the order. -/
theorem payment_evidence_bound (env : Platform) (settings : Settings) :
    (∀ s operationId payload,
      verifyPaymentSignature env settings payload.razorpayOrderId payload.razorpayPaymentId
        payload.razorpaySignature = .ok true →
      ((∀ op, Settles env settings s operationId payload op →
          Evidenced s op payload.razorpayOrderId) ↔ EvidenceFits s operationId payload)) ∧
    ∀ s actions, UniqueLinks s →
      (controlPlane env settings).Along (fun s a => EvidenceKept env settings s a ∧ FreshOrder s a)
        s actions →
      ∀ before operationId payload after op,
        actions = before ++ .verify operationId payload :: after →
        Settles env settings ((controlPlane env settings).run s before) operationId payload op →
        (∀ op' target dReserved dCommitted, .posted op' target dReserved dCommitted ∈
            (controlPlane env settings).trace ((controlPlane env settings).run s
              (before ++ [.verify operationId payload])) after → op'.id ≠ op.id) ∧
        ∀ between operationId' payload' rest op',
          after = between ++ .verify operationId' payload' :: rest →
          payload'.razorpayOrderId = payload.razorpayOrderId →
          ¬ Settles env settings ((controlPlane env settings).run s
            (before ++ .verify operationId payload :: between)) operationId' payload' op' := by
  refine ⟨fun s operationId payload => settles_evidenced_iff, ?_⟩
  intro s actions hu halong before operationId payload after op hsplit hset
  subst hsplit
  obtain ⟨hbefore, ⟨hkept, -⟩, hafter⟩ := Machine.along_append.mp halong
  have hunique : UniqueLinks ((controlPlane env settings).run s before) :=
    Machine.inv_run (fun s a hu hp => uniqueLinks_step (perform_step env settings s a) hp.2 hu)
      hu hbefore
  have hspent := spent_of_settles hset hkept hunique
  have hstep : ∀ (s : Store) (a : Action), Spent op.id payload.razorpayOrderId s →
      (EvidenceKept env settings s a ∧ FreshOrder s a) →
        Spent op.id payload.razorpayOrderId ((controlPlane env settings).next s a) :=
    fun s a hs hp => (spent_step (perform_step env settings s a) hp.1 hp.2 hs).1
  constructor
  · intro op' target dReserved dCommitted hm
    rw [Machine.run_append] at hm
    have hlog : ∀ (s : Store) (a : Action), Spent op.id payload.razorpayOrderId s →
        (EvidenceKept env settings s a ∧ FreshOrder s a) →
          ∀ e ∈ (controlPlane env settings).log s a, ∀ op₁ target₁ dReserved₁ dCommitted₁,
            e = .posted op₁ target₁ dReserved₁ dCommitted₁ → op₁.id ≠ op.id := by
      rintro s a hs hp e he op₁ target₁ dReserved₁ dCommitted₁ rfl
      exact (spent_step (perform_step env settings s a) hp.1 hp.2 hs).2 _ _ _ _ he
    exact Machine.trace_forall hstep hlog hspent hafter _ hm op' _ _ _ rfl
  · intro between operationId' payload' rest op' hsplit horder hset'
    subst hsplit
    obtain ⟨hbetween, ⟨hkept', -⟩, -⟩ := Machine.along_append.mp hafter
    rw [Machine.run_append, Machine.run_cons] at hset'
    have hs := Machine.inv_run hstep hspent hbetween
    obtain ⟨tx, hv⟩ := settles_iff.mp hset'
    have hevidence := evidenced_of_verified hv hkept'
    have hlink := link_of_evidenced hevidence
    rw [horder] at hlink
    exact hs.not_evidenced hv.self hevidence (hs.unique _ hlink _ hs.link _ rfl rfl)

/-- A request, its verified payment, and the webhook of the same payment. -/
theorem payment_evidence_bound_verifyA :
    (∀ op, Settles Sample.platform Sample.settings
        ((controlPlane Sample.platform Sample.settings).run Sample.store [Sample.requestA])
        "operation_A" ⟨"order_A", "pay_A", Sample.signatureA⟩ op →
      Evidenced ((controlPlane Sample.platform Sample.settings).run Sample.store
        [Sample.requestA]) op "order_A") ∧
    ∃ op : FinancialOperation, ∀ op' target dReserved dCommitted,
      .posted op' target dReserved dCommitted ∈
        (controlPlane Sample.platform Sample.settings).trace
          ((controlPlane Sample.platform Sample.settings).run Sample.store
            [Sample.requestA, Sample.verifyA]) [Sample.deliver Sample.capturedA] →
        op'.id ≠ op.id := by
  have hbound := payment_evidence_bound Sample.platform Sample.settings
  generalize hs : (controlPlane Sample.platform Sample.settings).run Sample.store
    [Sample.requestA] = s
  have hoperations : s.operations.rows.all
      (fun op => op.status.inFlight && op.id = "operation_A") = true := by
    rw [← hs]
    decide +kernel
  have htransactions : (s.transactionsOf "operation_A").any
      (fun tx => tx.gatewayOrderId = some "order_A") = true := by
    rw [← hs]
    decide +kernel
  have hfits : EvidenceFits s "operation_A" ⟨"order_A", "pay_A", Sample.signatureA⟩ := by
    intro op hfound _
    have hself := (Store.find?_of_operationByOperationId hfound).1
    have hrow := List.all_eq_true.mp hoperations op (Table.mem_of_find? hself)
    simp only [Bool.and_eq_true, decide_eq_true_eq] at hrow
    obtain ⟨tx, hm, horder⟩ := List.any_eq_true.mp htransactions
    exact ⟨hrow.1, tx, hrow.2 ▸ hm, of_decide_eq_true horder⟩
  refine ⟨(hbound.1 s "operation_A" ⟨"order_A", "pay_A", Sample.signatureA⟩ Sample.signedA).mpr
    hfits, ?_⟩
  have hrows : (s.operations.rows.filter fun op => op.operationId = "operation_A").map
      FinancialOperation.id = ["operation_A"] := by
    rw [← hs]
    decide +kernel
  have hone : (s.transactionsOf "operation_A").length ≤ 1 := by
    rw [← hs]
    decide +kernel
  obtain ⟨op, -, -, hset⟩ := @exists_settles Sample.platform Sample.settings s "operation_A"
    "operation_A" ⟨"order_A", "pay_A", Sample.signatureA⟩ hrows hone Sample.signedA
  have halong : (controlPlane Sample.platform Sample.settings).Along
      (fun s a => EvidenceKept Sample.platform Sample.settings s a ∧ FreshOrder s a) Sample.store
      [Sample.requestA, Sample.verifyA, Sample.deliver Sample.capturedA] := by
    -- neither the payment nor the webhook asks the gateway for an order
    have hrequest : EvidenceKept Sample.platform Sample.settings Sample.store Sample.requestA ∧
        FreshOrder Sample.store Sample.requestA := ⟨trivial, fun _ _ _ _ link hm => by cases hm⟩
    have hverify (s : Store) : FreshOrder s Sample.verifyA := fun _ _ h => by cases h
    have hdeliver (s : Store) :
        EvidenceKept Sample.platform Sample.settings s (Sample.deliver Sample.capturedA) ∧
          FreshOrder s (Sample.deliver Sample.capturedA) := ⟨trivial, fun _ _ h => by cases h⟩
    refine ⟨hrequest, ⟨fun _ => ?_, hverify _⟩, hdeliver _, trivial⟩
    rw [show (controlPlane Sample.platform Sample.settings).next Sample.store Sample.requestA = s
      from hs]
    exact hfits
  have hempty : UniqueLinks Sample.store := fun link hm => by cases hm
  exact ⟨op, (hbound.2 Sample.store _ hempty halong [Sample.requestA] "operation_A"
    ⟨"order_A", "pay_A", Sample.signatureA⟩ [Sample.deliver Sample.capturedA] op rfl
    (hs ▸ hset)).1⟩

/-- The signed payment of order B settles operation A, to which order B does not belong, and then
operation B as well. -/
theorem not_evidenced_of_foreign_payment :
    verifyPaymentSignature Sample.platform Sample.settings "order_B" "pay_B" Sample.signatureB =
        .ok true ∧
      (∃ op, Settles Sample.platform Sample.settings
          ((controlPlane Sample.platform Sample.settings).run Sample.store
            [Sample.requestA, Sample.requestB])
          "operation_A" ⟨"order_B", "pay_B", Sample.signatureB⟩ op ∧
        ¬ Evidenced ((controlPlane Sample.platform Sample.settings).run Sample.store
            [Sample.requestA, Sample.requestB]) op "order_B") ∧
      ∃ op, op.id = "operation_B" ∧ Settles Sample.platform Sample.settings
        ((controlPlane Sample.platform Sample.settings).run Sample.store
          [Sample.requestA, Sample.requestB,
            .verify "operation_A" ⟨"order_B", "pay_B", Sample.signatureB⟩])
        "operation_B" ⟨"order_B", "pay_B", Sample.signatureB⟩ op := by
  refine ⟨Sample.signedB, ?_, ?_⟩
  · generalize hs : (controlPlane Sample.platform Sample.settings).run Sample.store
      [Sample.requestA, Sample.requestB] = s
    have hrows : (s.operations.rows.filter fun op => op.operationId = "operation_A").map
        FinancialOperation.id = ["operation_A"] := by
      rw [← hs]
      decide +kernel
    have htransactions : (s.transactionsOf "operation_A").map Transaction.gatewayOrderId =
        [some "order_A"] := by
      rw [← hs]
      decide +kernel
    have hone : (s.transactionsOf "operation_A").length ≤ 1 := by
      rw [← List.length_map, htransactions]
      decide
    obtain ⟨op, hid, -, hset⟩ := @exists_settles Sample.platform Sample.settings s "operation_A"
      "operation_A" ⟨"order_B", "pay_B", Sample.signatureB⟩ hrows hone Sample.signedB
    refine ⟨op, hset, fun he => ?_⟩
    obtain ⟨-, tx, hm, horder⟩ := he
    rw [hid] at hm
    have hmem : tx.gatewayOrderId ∈
        (s.transactionsOf "operation_A").map Transaction.gatewayOrderId := List.mem_map_of_mem hm
    rw [htransactions, horder] at hmem
    exact absurd hmem (by decide)
  · generalize hs : (controlPlane Sample.platform Sample.settings).run Sample.store
      [Sample.requestA, Sample.requestB,
        .verify "operation_A" ⟨"order_B", "pay_B", Sample.signatureB⟩] = s
    have hrows : (s.operations.rows.filter fun op => op.operationId = "operation_B").map
        FinancialOperation.id = ["operation_B"] := by
      rw [← hs]
      decide +kernel
    have hone : (s.transactionsOf "operation_B").length ≤ 1 := by
      rw [← hs]
      decide +kernel
    obtain ⟨op, hid, -, hset⟩ := @exists_settles Sample.platform Sample.settings s "operation_B"
      "operation_B" ⟨"order_B", "pay_B", Sample.signatureB⟩ hrows hone Sample.signedB
    exact ⟨op, hid, hset⟩

end MandatePlane.PaymentEvidence

import MandatePlane.LedgerConsistency

/-!
# Settlement deliveries and the reserved totals

A store is in order when every mandate's `reserved_spend` is the sum of the amounts of
its operations in flight.  Then it covers the amount of every one of them, so a
delivery that settles an operation finds the amount in the reservation: the two
fallbacks for a smaller reservation are dead, and the settlement keeps the store in
order.  Nothing is asked of the transactions; a delivery whose order id selects several
of them is recorded as failed.
-/

namespace MandatePlane.SettlementTotals

open DomainModel KeyedTable HoldLedger LabelledRun LedgerView HostEnvironment HandlerPostings
open ControlPlane WebhookRoutes LedgerConsistency

/-! ### The sum invariant -/

/-- Every mandate's `reserved_spend` is the sum of its RESERVED and EXECUTING amounts. -/
def ReservedTotals (s : Store) : Prop :=
  ∀ m ∈ s.mandates.rows, m.reservedSpend = s.operations.sum fun op =>
    if op.mandateId = m.id ∧ op.status.inFlight = true then op.amount else 0

theorem reservedTotals_iff {s : Store} : ReservedTotals s ↔ HeldTotals (ledger s) := by
  have hsum (m : Mandate) : (ledger s).holds.sum (heldPart m.id) = s.operations.sum fun op =>
      if op.mandateId = m.id ∧ op.status.inFlight = true then op.amount else 0 := by
    rw [ledger, Table.sum_mapRows]
    rfl
  constructor
  · intro h acc hacc
    obtain ⟨m, hm, rfl⟩ := List.mem_map.mp hacc
    exact (h m hm).trans (hsum m).symm
  · intro h m hm
    exact (h (mandateAccount m) (List.mem_map_of_mem hm)).trans (hsum m)

/-- A posting that finds its mandate finds the amount in the reservation and takes it out. -/
def Drawn (s : Store) : Event → Prop
  | .posted op _ dReserved _ => ∀ mandate, s.mandates.find? op.mandateId = some mandate →
      op.amount ≤ mandate.reservedSpend ∧ dReserved = -op.amount
  | _ => True

/-- No mandate has more committed and reserved together than before. -/
def NotGrown (s s' : Store) : Prop :=
  ∀ m ∈ s.mandates.rows, ∃ m', s'.mandates.find? m.id = some m' ∧
    m'.currentAggregateSpend + m'.reservedSpend ≤ m.currentAggregateSpend + m.reservedSpend

/-- The same in terms of the accounts. -/
theorem notGrown_of_accounts {s s' : Store}
    (h : ∀ id acc, (ledger s).accounts.find? id = some acc →
      ∃ acc', (ledger s').accounts.find? id = some acc' ∧
        acc'.spent + acc'.held ≤ acc.spent + acc.held) : NotGrown s s' := by
  intro m hm
  have hfind : s.mandates.find? m.id = some m := Table.find?_of_mem hm
  have hacc : (ledger s).accounts.find? m.id = some (mandateAccount m) := by
    rw [accounts_find?, hfind]
    rfl
  obtain ⟨acc', hacc', hle⟩ := h m.id _ hacc
  rw [accounts_find?] at hacc'
  obtain ⟨m', hm', rfl⟩ := Option.map_eq_some_iff.mp hacc'
  exact ⟨m', hm', hle⟩

theorem notGrown_of_ledger {s s' : Store} (h : ledger s' = ledger s) : NotGrown s s' := by
  refine notGrown_of_accounts fun id acc hacc => ⟨acc, ?_, le_rfl⟩
  rw [h]
  exact hacc

/-- A posting that adds no more to the committed total than it takes from the reserved one. -/
theorem notGrown_post {s s' : Store} {id mandateId : String} {target : OperationStatus}
    {dReserved dCommitted : ℤ}
    (hbooks : ledger s' = (ledger s).enter (.post id mandateId target dReserved dCommitted))
    (hle : ∀ m, s.mandates.find? mandateId = some m → dCommitted + dReserved ≤ 0) :
    NotGrown s s' := by
  refine notGrown_of_accounts fun k acc hacc => ?_
  rw [hbooks, accounts_enter_post]
  by_cases hk : k = mandateId
  · subst hk
    rw [if_pos rfl, hacc]
    rw [accounts_find?] at hacc
    obtain ⟨m, hm, -⟩ := Option.map_eq_some_iff.mp hacc
    have hmove := hle m hm
    refine ⟨acc.move dReserved dCommitted, rfl, ?_⟩
    show acc.spent + dCommitted + (acc.held + dReserved) ≤ acc.spent + acc.held
    omega
  · rw [if_neg hk]
    exact ⟨acc, hacc, le_rfl⟩

/-! ### One settlement -/

/-- The status write of a settlement of an operation in flight. -/
structure Settles (s : Store) (op : FinancialOperation) (target : OperationStatus)
    (dReserved dCommitted : ℤ) : Prop where
  rule : EventRule (ledger s) (.posted op target dReserved dCommitted)
  inFlight : op.status.inFlight = true
  settled : target = .succeeded ∨ target = .failed

variable {env : Platform} {settings : Settings} {s s' : Store}

/-- In a store in order a settlement takes exactly the amount out of the reservation, and commits
it or drops it. -/
theorem Settles.moves {op : FinancialOperation} {target : OperationStatus}
    {dReserved dCommitted : ℤ} (h : Settles s op target dReserved dCommitted)
    (ht : HeldTotals (ledger s)) (hp : PositiveAmounts s) {m : Mandate}
    (hm : s.mandates.find? op.mandateId = some m) :
    op.amount ≤ m.reservedSpend ∧ dReserved = -op.amount ∧
      (dCommitted = op.amount ∨ dCommitted = 0) := by
  obtain ⟨hfind, hposting⟩ := h.rule
  have hacc : (ledger s).accounts.find? op.mandateId = some (mandateAccount m) := by
    rw [accounts_find?, hm]
    rfl
  have hcover : op.amount ≤ (mandateAccount m).held :=
    amount_le_held ht (fun r hr => (positiveAmounts_iff.mp hp r hr).le) (Table.mem_of_find? hfind)
      h.inFlight hacc
  rw [hacc] at hposting
  obtain ⟨hReserved, hCommitted⟩ := hposting.moves fun _ => hcover
  have hnot : op.status ≠ .succeeded := by
    intro he
    have hflight := h.inFlight
    rw [he] at hflight
    cases hflight
  rw [reservedIn, reservedIn, if_pos h.inFlight] at hReserved
  rw [committedIn, committedIn, if_neg hnot, sub_zero] at hCommitted
  refine ⟨hcover, ?_, ?_⟩
  · rcases h.settled with rfl | rfl <;> exact hReserved.trans (zero_sub _)
  · rcases h.settled with rfl | rfl
    · exact .inl hCommitted
    · exact .inr hCommitted

/-- **One settlement** of a store in order. -/
theorem Settles.kept {op : FinancialOperation} {target : OperationStatus}
    {dReserved dCommitted : ℤ} (h : Settles s op target dReserved dCommitted)
    (ht : HeldTotals (ledger s)) (hp : PositiveAmounts s)
    (hbooks : ledger s' = (ledger s).enter (.post op.id op.mandateId target dReserved dCommitted)) :
    HeldTotals (ledger s') ∧ NotGrown s s' ∧ Drawn s (.posted op target dReserved dCommitted) := by
  refine ⟨?_, notGrown_post hbooks fun m hm => ?_, fun m hm => ?_⟩
  · rw [hbooks]
    refine heldTotals_post (h := operationHold op) ht h.rule.1 fun acc hacc => ?_
    rw [show (operationHold op).account = op.mandateId from rfl, accounts_find?] at hacc
    obtain ⟨m, hm, -⟩ := Option.map_eq_some_iff.mp hacc
    have hbefore : heldPart op.mandateId (operationHold op) = op.amount := if_pos ⟨rfl, h.inFlight⟩
    have hafter : heldPart op.mandateId ((operationHold op).moveTo target) = 0 := by
      refine if_neg fun hc => ?_
      rcases h.settled with rfl | rfl <;> cases hc.2
    show dReserved = heldPart op.mandateId ((operationHold op).moveTo target) -
      heldPart op.mandateId (operationHold op)
    rw [hbefore, hafter, (h.moves ht hp hm).2.1, zero_sub]
  · have hpos : 0 < op.amount :=
      positiveAmounts_iff.mp hp _ (Table.mem_of_find? h.rule.1)
    obtain ⟨-, hReserved, hCommitted⟩ := h.moves ht hp hm
    omega
  · obtain ⟨hcover, hReserved, -⟩ := h.moves ht hp hm
    exact ⟨hcover, hReserved⟩

/-! ### Deliveries of payments -/

/-- The delivery reports a paid order, a captured payment or a failed one. -/
def ReportsPayment (env : Platform) (delivery : WebhookDelivery) : Prop :=
  ∃ eventData eventType, env.jsonLoads delivery.rawBody = some eventData ∧
    eventData.get "event" (.str "unknown") = .ok (.str eventType) ∧
    (eventType = "order.paid" ∨ eventType = "payment.captured" ∨ eventType = "payment.failed")

/-- Such a delivery settles at most one operation. -/
theorem delivered_settles {delivery : WebhookDelivery} {events : List Event}
    (h : Delivered env settings delivery s events s') (hreports : ReportsPayment env delivery) :
    events = [] ∨ ∃ op target dReserved dCommitted,
      events = [.posted op target dReserved dCommitted] ∧
        Settles s op target dReserved dCommitted := by
  have hruled := h.explained.1.ruled
  cases h with
  | recorded => exact .inl rfl
  | processed haccepted hdone _ =>
    cases hdone with
    | ignored => exact .inl rfl
    | captured _ _ _ _ hflight _ =>
      obtain ⟨dReserved, dCommitted, hwrite⟩ := captureBudget_write hflight
      have hrule := hwrite.event ▸ hruled.1
      exact .inr ⟨_, _, _, _, congrArg List.singleton hwrite.event, hrule, hflight, .inl rfl⟩
    | failed _ _ _ _ hflight _ =>
      obtain ⟨dReserved, dCommitted, hwrite⟩ := failureBudget_write hflight
      have hrule := hwrite.event ▸ hruled.1
      exact .inr ⟨_, _, _, _, congrArg List.singleton hwrite.event, hrule, hflight, .inr rfl⟩
    | refunded _ _ _ _ _ =>
      obtain ⟨eventData, eventType, hbody, htype, hcase⟩ := hreports
      cases haccepted.body.symm.trans hbody
      have hrefund := haccepted.type.symm.trans htype
      rw [Except.ok.injEq, JsonValue.Json.str.injEq] at hrefund
      subst hrefund
      simp at hcase

/-- **One delivery** of a payment. -/
theorem delivery_kept (env : Platform) (settings : Settings) (s : Store)
    {delivery : WebhookDelivery}
    (hreports : ReportsPayment env delivery) (ht : ReservedTotals s) (hp : PositiveAmounts s) :
    ReservedTotals (perform env settings s (.webhook delivery)).1 ∧
      PositiveAmounts (perform env settings s (.webhook delivery)).1 ∧
      NotGrown s (perform env settings s (.webhook delivery)).1 ∧
      ∀ e ∈ (perform env settings s (.webhook delivery)).2, Drawn s e := by
  have hstep := perform_step env settings s (.webhook delivery)
  have hpos := positiveAmounts_step hstep hp
  revert hstep hpos
  generalize perform env settings s (.webhook delivery) = done
  obtain ⟨s', events⟩ := done
  intro hstep hpos
  have hbooks := hstep.books
  rw [reservedTotals_iff] at ht ⊢
  cases hstep with
  | refused => exact ⟨ht, hpos, notGrown_of_ledger rfl, fun e he => by cases he⟩
  | delivered h =>
    rcases delivered_settles h hreports with rfl | ⟨op, target, dReserved, dCommitted, rfl, hsettles⟩
    · refine ⟨?_, hpos, ?_, fun e he => by cases he⟩
      · rw [show ledger s' = ledger s from hbooks]
        exact ht
      · exact notGrown_of_ledger hbooks
    · obtain ⟨hheld, hgrown, hdrawn⟩ := hsettles.kept ht hp hbooks
      refine ⟨hheld, hpos, hgrown, fun e he => ?_⟩
      rw [List.mem_singleton] at he
      exact he ▸ hdrawn

/-- **Settlement deliveries keep the ledger.**  Over any sequence of deliveries of paid orders,
captured payments and failed payments, every `reserved_spend` stays the sum of the amounts in
flight, nothing committed and reserved together grows, and no settlement meets a reservation
smaller than its amount. -/
theorem payment_deliveries_keep_ledger (env : Platform) (settings : Settings) (s : Store)
    (deliveries : List WebhookDelivery)
    (hreports : ∀ delivery ∈ deliveries, ReportsPayment env delivery)
    (htotals : ReservedTotals s) (hpositive : PositiveAmounts s) :
    (controlPlane env settings).Throughout ReservedTotals s (deliveries.map .webhook) ∧
      (controlPlane env settings).Along (fun s a =>
        NotGrown s ((controlPlane env settings).next s a) ∧
          ∀ e ∈ (controlPlane env settings).log s a, Drawn s e)
        s (deliveries.map .webhook) := by
  induction deliveries generalizing s with
  | nil => exact ⟨htotals, trivial⟩
  | cons delivery deliveries ih =>
    obtain ⟨hkept, hpos, hgrown, hdrawn⟩ :=
      delivery_kept env settings s (hreports delivery List.mem_cons_self) htotals hpositive
    have hrest : ∀ d ∈ deliveries, ReportsPayment env d :=
      fun d hd => hreports d (List.mem_cons_of_mem _ hd)
    obtain ⟨hthroughout, halong⟩ := ih _ hrest hkept hpos
    exact ⟨⟨htotals, hthroughout⟩, ⟨hgrown, hdrawn⟩, halong⟩

/-- One order in flight, captured and captured again. -/
theorem payment_deliveries_keep_ledger_capturedA :
    (controlPlane Sample.platform Sample.settings).Throughout ReservedTotals
        ((controlPlane Sample.platform Sample.settings).run Sample.store [Sample.requestA])
        [.webhook (Sample.delivery Sample.capturedA), .webhook (Sample.delivery Sample.capturedA)] ∧
      (controlPlane Sample.platform Sample.settings).Along (fun s a =>
        NotGrown s ((controlPlane Sample.platform Sample.settings).next s a) ∧
          ∀ e ∈ (controlPlane Sample.platform Sample.settings).log s a, Drawn s e)
        ((controlPlane Sample.platform Sample.settings).run Sample.store [Sample.requestA])
        [.webhook (Sample.delivery Sample.capturedA),
          .webhook (Sample.delivery Sample.capturedA)] := by
  refine payment_deliveries_keep_ledger _ _ _
    [Sample.delivery Sample.capturedA, Sample.delivery Sample.capturedA] ?_ ?_ ?_
  · intro delivery hm
    have hsame : delivery = Sample.delivery Sample.capturedA := by simpa using hm
    subst hsame
    exact ⟨Sample.capturedEvent "evt_1" "order_A" "pay_A", "payment.captured", by rfl, by rfl,
      .inr (.inl rfl)⟩
  · unfold ReservedTotals
    decide +kernel
  · unfold PositiveAmounts
    decide +kernel

end MandatePlane.SettlementTotals

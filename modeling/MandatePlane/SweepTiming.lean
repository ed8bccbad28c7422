import MandatePlane.SweepCompleteness

/-!
# When a sweep releases

The worker measures the age of an operation from `created_at`, the moment of its request.
The budget is reserved and the order is created later than that, for an operation that
waits for an approval perhaps by hours.

A run with a clock notes for every operation when its budget was last reserved and when
its order was created.  Whether every later sweep is patient can then be read off the
state: it is so exactly if no operation it can release was reserved after its
`created_at`, nor its order created after it within the last 300 seconds.
-/

namespace MandatePlane.SweepTiming

open DomainModel KeyedTable HoldLedger LabelledRun LedgerView HandlerPostings HostEnvironment
open OperationRoutes RazorpayClient ControlPlane TransactionLinks
open ReconciliationWorker SweepVerdicts SweepCorrectness SweepCompleteness

/-! ### Runs with a clock -/

/-- An action, when its `reserve_budget` ran, when the gateway created its order, and when it was
over, in microseconds. -/
structure Moment where
  action : Action
  reserves : ℤ
  orders : ℤ
  ends : ℤ
  reserves_le : reserves ≤ orders
  orders_le : orders ≤ ends

/-- The store, and what a clock beside it has noted for the ids of operations. -/
structure TimedStore where
  store : Store
  reservedAt : String → Option ℤ
  orderedAt : String → Option ℤ
  now : ℤ

/-- The operation whose budget an observation reserves. -/
def reservedBy : Event → Option String
  | .posted op .reserved _ _ => some op.id
  | _ => none

/-- The operation whose order an observation creates. -/
def orderedBy : Event → Option String
  | .gatewayCall op (.createOrder _ _ _ _) => some op.id
  | _ => none

/-- The notes after a step. -/
def stamp (of : Event → Option String) (time : ℤ) (events : List Event) (notes : String → Option ℤ)
    (id : String) : Option ℤ :=
  if events.any fun e => of e = some id then some time else notes id

/-- The control plane with the clock beside it. -/
def timed (env : Platform) (settings : Settings) : Machine TimedStore Moment Event where
  next x m :=
    let events := (controlPlane env settings).log x.store m.action
    { store := (controlPlane env settings).next x.store m.action
      reservedAt := stamp reservedBy m.reserves events x.reservedAt
      orderedAt := stamp orderedBy m.orders events x.orderedAt
      now := max x.now m.ends }
  log x m := (controlPlane env settings).log x.store m.action

def unstamped (s : Store) (now : ℤ) : TimedStore := ⟨s, fun _ => none, fun _ => none, now⟩

theorem stamp_of_mem {of : Event → Option String} {time : ℤ} {events : List Event}
    {notes : String → Option ℤ} {id : String} {e : Event} (he : e ∈ events) (hid : of e = some id) :
    stamp of time events notes id = some time :=
  if_pos (List.any_eq_true.mpr ⟨e, he, decide_eq_true hid⟩)

theorem stamp_cases (of : Event → Option String) (time : ℤ) (events : List Event)
    (notes : String → Option ℤ) (id : String) :
    (∃ e ∈ events, of e = some id) ∨
      (∀ e ∈ events, of e ≠ some id) ∧ stamp of time events notes id = notes id := by
  by_cases h : ∃ e ∈ events, of e = some id
  · exact .inl h
  · refine .inr ⟨fun e he hid => h ⟨e, he, hid⟩, if_neg fun hany => h ?_⟩
    obtain ⟨e, he, hid⟩ := List.any_eq_true.mp hany
    exact ⟨e, he, of_decide_eq_true hid⟩

/-! ### Patience -/

/-- The gateway has an order of the operation. -/
def HasOrder (s : Store) (op : FinancialOperation) : Prop :=
  ∃ tx ∈ s.transactionsOf op.id, noId tx.gatewayOrderId = false

/-- A sweep that begins after everything so far. -/
structure Follows (x : TimedStore) (inputs : SweepInputs) : Prop where
  started : x.now ≤ inputs.startedAt
  checked : ∀ id, inputs.startedAt ≤ inputs.checkedAt id

/-- The timeout has passed since the budget was reserved, and 300 seconds since the order, if there
is one, was created. -/
structure Due (x : TimedStore) (inputs : SweepInputs) (op : FinancialOperation) : Prop where
  reserved : ∃ t, x.reservedAt op.id = some t ∧
    microseconds inputs.timeoutSeconds ≤ inputs.checkedAt op.id - t
  ordered : HasOrder x.store op → ∃ t, x.orderedAt op.id = some t ∧
    microseconds 300 ≤ inputs.checkedAt op.id - t

/-- **No premature release**: whatever a sweep fails and releases is due. -/
def Patient (x : TimedStore) : Prop :=
  ∀ inputs, Follows x inputs →
    ∀ c, reconcileStuckReservations inputs x.store = .ok c →
      ∀ op, .posted op .failed (-op.amount) 0 ∈ c.events → Due x inputs op

/-- The budget was reserved no later than the operation was created, and so was the order, up to the
microsecond by which the worker's comparison is strict; or the order is 300 seconds old by now. -/
structure Prompt (x : TimedStore) (op : FinancialOperation) : Prop where
  reserved : ∃ t, x.reservedAt op.id = some t ∧ t ≤ op.createdAt
  ordered : HasOrder x.store op → ∃ t, x.orderedAt op.id = some t ∧
    (t ≤ op.createdAt + 1 ∨ microseconds 300 ≤ x.now - t)

/-- Every operation in flight that a sweep can release was prompt. -/
def Punctual (x : TimedStore) : Prop :=
  ∀ op ∈ x.store.operations.rows, op.status.inFlight = true → ¬ WithoutOrder x.store op → Prompt x op

section Decisions

variable {inputs : SweepInputs} {s : Store} {op : FinancialOperation}

/-- What the worker fails: what was never dispatched, and an order that is unpaid 300 seconds after
the operation was created. -/
theorem verdict_release_iff {tx : Option Transaction} :
    (∃ message reason, verdict inputs op tx = .release message reason) ↔
      undispatched tx = true ∨ ∃ orderId order, tx.bind Transaction.gatewayOrderId = some orderId ∧
        orderId.isEmpty = false ∧ inputs.fetchOrder op.id = .ok order ∧
        (order.status = "attempted" ∨ order.status = "created") ∧
        microseconds 300 < inputs.checkedAt op.id - op.createdAt := by
  unfold verdict
  by_cases hundispatched : undispatched tx = true
  · rw [if_pos hundispatched]
    exact ⟨fun _ => .inl hundispatched, fun _ => ⟨_, _, rfl⟩⟩
  rw [if_neg hundispatched]
  constructor
  · rintro ⟨message, reason, h⟩
    cases horder : tx.bind Transaction.gatewayOrderId with
    | none =>
      rw [horder] at h
      cases h
    | some orderId =>
      simp only [horder] at h
      by_cases hempty : orderId.isEmpty = true
      · rw [if_pos hempty] at h
        cases h
      rw [if_neg hempty] at h
      cases hfetch : inputs.fetchOrder op.id with
      | error _ =>
        rw [hfetch] at h
        cases h
      | ok order =>
        simp only [hfetch] at h
        by_cases hpaid : order.status = "paid"
        · rw [if_pos hpaid] at h
          cases h
        rw [if_neg hpaid] at h
        split at h
        · rename_i hunpaid
          exact .inr ⟨orderId, order, rfl, Bool.not_eq_true _ ▸ hempty, rfl, hunpaid.1, hunpaid.2⟩
        · cases h
  · rintro (h | ⟨orderId, order, horder, hempty, hfetch, hstatus, hage⟩)
    · exact absurd h hundispatched
    · have hpaid : order.status ≠ "paid" := by
        rcases hstatus with h | h <;> simp [h]
      simp only [horder, hempty, hfetch, if_neg hpaid, Bool.false_eq_true, if_false]
      rw [if_pos ⟨hstatus, hage⟩]
      exact ⟨_, _, rfl⟩

/-- What a sweep fails, by its decisions. -/
theorem released_iff (hone : OneTransactionEach s) {c : Committed ℕ}
    (hc : reconcileStuckReservations inputs s = .ok c) :
    .posted op .failed (-op.amount) 0 ∈ c.events ↔ op ∈ stuckOperations inputs s ∧
      ∃ message reason, decision inputs s op = .release message reason := by
  rw [reconcileStuckReservations_eq, sweepOver_eq hone] at hc
  cases hc
  show _ ∈ (carryAll _ _ _).2 ↔ _
  rw [carryAll_events, List.mem_flatMap]
  constructor
  · rintro ⟨op', hop', hm⟩
    cases hdecision : decision inputs s op' with
    | keep =>
      rw [hdecision] at hm
      cases hm
    | release message reason =>
      rw [hdecision] at hm
      cases List.mem_singleton.mp hm
      exact ⟨hop', message, reason, hdecision⟩
    | commit orderId =>
      rw [hdecision] at hm
      cases List.mem_singleton.mp hm
  · rintro ⟨hop, message, reason, hdecision⟩
    refine ⟨op, hop, ?_⟩
    rw [hdecision]
    exact List.mem_singleton_self _

/-- The transaction a decision looks at is the one that has the order. -/
theorem head_of_hasOrder (hone : OneTransactionEach s) (h : HasOrder s op) :
    ∃ tx, (s.transactionsOf op.id).head? = some tx ∧ undispatched (some tx) = false := by
  obtain ⟨tx, htx, horder⟩ := h
  rcases nil_or_singleton (hone op.id) with hrows | ⟨tx', hrows⟩
  · rw [hrows] at htx
    cases htx
  · rw [hrows] at htx ⊢
    cases List.mem_singleton.mp htx
    exact ⟨tx, rfl, by simp [undispatched, horder]⟩

/-- Five minutes after its creation everything but a payment link can be failed. -/
theorem decision_release (hone : OneTransactionEach s)
    (hmandate : (s.mandates.find? op.mandateId).isSome = true) (hlink : ¬ WithoutOrder s op)
    {order : RazorpayOrderResponse} (hfetch : inputs.fetchOrder op.id = .ok order)
    (hunpaid : order.status = "created")
    (hage : microseconds 300 < inputs.checkedAt op.id - op.createdAt) :
    ∃ message reason, decision inputs s op = .release message reason := by
  rw [decision, if_pos hmandate, verdict_release_iff]
  rcases nil_or_singleton (hone op.id) with hrows | ⟨tx, hrows⟩
  · rw [hrows]
    exact .inl rfl
  · rw [hrows]
    by_cases hundispatched : undispatched (some tx) = true
    · exact .inl hundispatched
    · refine .inr ?_
      rw [Bool.not_eq_true] at hundispatched
      have horder : noId tx.gatewayOrderId = false := by
        by_contra hnone
        rw [Bool.not_eq_false] at hnone
        refine hlink ⟨tx, ?_, hnone, hundispatched⟩
        rw [hrows]
        exact List.mem_singleton_self tx
      cases hid : tx.gatewayOrderId with
      | none =>
        rw [hid] at horder
        cases horder
      | some orderId =>
        rw [hid] at horder
        exact ⟨orderId, order, hid, horder, hfetch, .inr hunpaid, hage⟩

/-- What is failed is no payment link. -/
theorem not_withoutOrder_of_release (hone : OneTransactionEach s) {message reason : String}
    (h : decision inputs s op = .release message reason) : ¬ WithoutOrder s op := by
  rintro ⟨tx, htx, hnone, hdispatched⟩
  unfold decision at h
  split at h
  · rcases nil_or_singleton (hone op.id) with hrows | ⟨tx', hrows⟩
    · rw [hrows] at htx
      cases htx
    · rw [hrows] at htx h
      cases List.mem_singleton.mp htx
      rcases verdict_release_iff.mp ⟨message, reason, h⟩ with hun |
        ⟨orderId, _, horder, hempty, _⟩
      · have hun' : undispatched (some tx) = true := hun
        rw [hdispatched] at hun'
        cases hun'
      · have horder' : tx.gatewayOrderId = some orderId := horder
        rw [horder'] at hnone
        simp [noId, hempty] at hnone
  · cases h

end Decisions

/-! ### The state decides -/

section States

variable {x : TimedStore} {op : FinancialOperation}

/-- A punctual state is patient: what is selected is as old as it looks. -/
theorem patient_of_punctual (hone : OneTransactionEach x.store) (hp : Punctual x) : Patient x := by
  intro inputs hfollows c hc op hm
  obtain ⟨hstuck, message, reason, hdecision⟩ := (released_iff hone hc).mp hm
  obtain ⟨hop, hflight, hcutoff⟩ := mem_stuckOperations.mp hstuck
  obtain ⟨hreserved, hordered⟩ :=
    hp op hop hflight (not_withoutOrder_of_release hone hdecision)
  have hstarted := hfollows.started
  have hchecked := hfollows.checked op.id
  constructor
  · obtain ⟨t, ht, hle⟩ := hreserved
    exact ⟨t, ht, by omega⟩
  · intro hhas
    obtain ⟨t, ht, hle⟩ := hordered hhas
    have hage : microseconds 300 < inputs.checkedAt op.id - op.createdAt := by
      obtain ⟨tx, hhead, hdispatched⟩ := head_of_hasOrder hone hhas
      unfold decision at hdecision
      split at hdecision
      · rw [hhead] at hdecision
        rcases verdict_release_iff.mp ⟨message, reason, hdecision⟩ with hun |
          ⟨_, _, _, _, _, _, hage⟩
        · rw [hdispatched] at hun
          cases hun
        · exact hage
      · cases hdecision
    refine ⟨t, ht, ?_⟩
    rcases hle with hle | hle <;> omega

/-- A sweep at one moment that finds every order unpaid. -/
def sweepAt (timeoutSeconds time : ℤ) : SweepInputs where
  timeoutSeconds
  startedAt := time
  checkedAt _ := time
  fetchOrder _ := .ok ⟨"", 0, "", "created"⟩

/-- What a patient state owes to such a sweep. -/
theorem due_of_patient (timeout time : ℤ) (hone : OneTransactionEach x.store) (hpatient : Patient x)
    (hop : op ∈ x.store.operations.rows) (hflight : op.status.inFlight = true)
    (hmandate : (x.store.mandates.find? op.mandateId).isSome = true)
    (hlink : ¬ WithoutOrder x.store op) (hnow : x.now ≤ time)
    (hcutoff : op.createdAt ≤ time - microseconds timeout)
    (hage : microseconds 300 < time - op.createdAt) : Due x (sweepAt timeout time) op := by
  have hswept : reconcileStuckReservations (sweepAt timeout time) x.store = _ :=
    sweepOver_eq hone (stuckOperations (sweepAt timeout time) x.store)
  refine hpatient _ ⟨hnow, fun _ => le_refl time⟩ _ hswept op ((released_iff hone hswept).mpr ⟨?_, ?_⟩)
  · exact mem_stuckOperations.mpr ⟨hop, hflight, hcutoff⟩
  · exact decision_release hone hmandate hlink rfl rfl hage

/-- A patient state is punctual: the right timeout tells when a budget was reserved, and the
earliest possible check when an order was created. -/
theorem punctual_of_patient (hone : OneTransactionEach x.store)
    (hmandates : ∀ op ∈ x.store.operations.rows,
      (x.store.mandates.find? op.mandateId).isSome = true) (hpatient : Patient x) : Punctual x := by
  intro op hop hflight hlink
  have hmandate := hmandates op hop
  constructor
  · -- a timeout that ends now or later
    obtain ⟨n, hn⟩ : ∃ n : ℕ, x.now - op.createdAt ≤ n := ⟨_, Int.self_le_toNat _⟩
    have hdue := due_of_patient (301 + n) (op.createdAt + microseconds (301 + n)) hone hpatient hop
      hflight hmandate hlink (by unfold microseconds; omega) (by omega)
      (by unfold microseconds; omega)
    obtain ⟨t, ht, hle⟩ := hdue.reserved
    refine ⟨t, ht, ?_⟩
    have hle' : microseconds (301 + n) ≤ op.createdAt + microseconds (301 + n) - t := hle
    omega
  · intro hhas
    have hlater := le_max_left x.now (op.createdAt + microseconds 300 + 1)
    have hexpired := le_max_right x.now (op.createdAt + microseconds 300 + 1)
    have hdue := due_of_patient 0 (max x.now (op.createdAt + microseconds 300 + 1)) hone hpatient hop
      hflight hmandate hlink hlater (by unfold microseconds at hexpired ⊢; omega) (by omega)
    obtain ⟨t, ht, hle⟩ := hdue.ordered hhas
    have hle' : microseconds 300 ≤ max x.now (op.createdAt + microseconds 300 + 1) - t := hle
    refine ⟨t, ht, ?_⟩
    rcases max_choice x.now (op.createdAt + microseconds 300 + 1) with hmax | hmax
    · right
      omega
    · left
      omega

end States

/-! ### What the steps note -/

section Steps

variable {env : Platform} {settings : Settings} {s s' : Store} {a : Action} {events : List Event}
  {id : String}

/-- What a reservation takes in flight was in flight before, or the reservation is among the
observations. -/
theorem inFlight_origin_ruled {L : Books} {hold : Hold String String OperationStatus ℤ}
    (hr : eventBook.Along EventRule L events)
    (hfind : (eventBook.run L events).holds.find? id = some hold)
    (hflight : hold.phase.inFlight = true) :
    (∃ hold₀, L.holds.find? id = some hold₀ ∧ hold₀.phase.inFlight = true) ∨
      ∃ e ∈ events, reservedBy e = some id := by
  induction events generalizing L with
  | nil => exact .inl ⟨hold, hfind, hflight⟩
  | cons e events ih =>
    rcases ih hr.2 hfind with ⟨hold₁, hfind₁, hflight₁⟩ | ⟨e', he', hid⟩
    swap
    · exact .inr ⟨e', List.mem_cons_of_mem _ he', hid⟩
    have hrule := hr.1
    have hfirst : (book.run L [entry e]).holds.find? id = some hold₁ := hfind₁
    rcases phase_origin hfirst with ⟨hold₀, hfind₀, hphase⟩ | ⟨acc, dReserved, dCommitted, hm⟩ |
      ⟨hold₀, hm, -, hphase⟩
    · exact .inl ⟨hold₀, hfind₀, by rw [hphase]; exact hflight₁⟩
    · have he := List.mem_singleton.mp hm
      cases e with
      | posted op target dReserved' dCommitted' =>
        simp only [entry, Entry.post.injEq] at he
        obtain ⟨rfl, -, htarget, -, -⟩ := he
        rw [htarget] at hflight₁
        have hposting := hrule.2
        generalize hsource : op.status = source at hposting
        cases hposting with
        | reserve _ _ _ => exact .inr ⟨_, List.mem_cons_self, rfl⟩
        | execute => exact .inl ⟨_, hrule.1, by rw [operationHold, hsource]; rfl⟩
        | reject _ => cases hflight₁
        | park => cases hflight₁
        | commit _ => cases hflight₁
        | release _ => cases hflight₁
        | commitUncovered _ _ _ => cases hflight₁
        | releaseUncovered _ _ _ => cases hflight₁
        | commitUnfunded _ _ => cases hflight₁
        | releaseUnfunded _ _ => cases hflight₁
      | issued _ => cases he
      | opened _ => cases he
      | credited _ _ => cases he
      | gatewayCall _ _ => cases he
    · have he := List.mem_singleton.mp hm
      cases e with
      | opened op =>
        cases he
        rw [← hphase, show (operationHold op).phase = op.status from rfl, hrule.1] at hflight₁
        cases hflight₁
      | issued _ => cases he
      | posted _ _ _ _ => cases he
      | credited _ _ => cases he
      | gatewayCall _ _ => cases he

/-- An operation in flight after a step was so before, or the step has reserved its budget. -/
theorem inFlight_origin (h : Step env settings s a events s') {op : FinancialOperation}
    (hop : s'.operations.find? id = some op) (hflight : op.status.inFlight = true) :
    (∃ op₀, s.operations.find? id = some op₀ ∧ op₀.status.inFlight = true) ∨
      ∃ e ∈ events, reservedBy e = some id := by
  have hfind : (ledger s').holds.find? id = some (operationHold op) := by
    rw [holds_find?, hop]
    rfl
  rcases h.ruled_or_verified with hruled | ⟨op₁, hop₁, rfl⟩
  · rw [h.books] at hfind
    rcases inFlight_origin_ruled hruled hfind hflight with ⟨hold₀, hfind₀, hflight₀⟩ | hreserved
    · rw [holds_find?] at hfind₀
      obtain ⟨op₀, hop₀, rfl⟩ := Option.map_eq_some_iff.mp hfind₀
      exact .inl ⟨op₀, hop₀, hflight₀⟩
    · exact .inr hreserved
  · -- a verification leaves its operation SUCCEEDED
    have hpost := holds_enter_post (ledger s) op₁.id id op₁.mandateId .succeeded (-op₁.amount)
      op₁.amount
    rw [h.books] at hfind
    have hfind' : (if id = op₁.id then ((ledger s).holds.find? op₁.id).map (Hold.moveTo .succeeded)
        else (ledger s).holds.find? id) = some (operationHold op) := hpost.symm.trans hfind
    by_cases hid : id = op₁.id
    · rw [if_pos hid, holds_find?, hop₁] at hfind'
      have hstatus : OperationStatus.succeeded = op.status :=
        congrArg Hold.phase (Option.some.inj hfind')
      rw [← hstatus] at hflight
      cases hflight
    · rw [if_neg hid, holds_find?] at hfind'
      obtain ⟨op₀, hop₀, hsame⟩ := Option.map_eq_some_iff.mp hfind'
      refine .inl ⟨op₀, hop₀, ?_⟩
      rw [show op₀.status = op.status from congrArg Hold.phase hsame]
      exact hflight

/-- A gateway execution notes its own operation. -/
theorem noted_by_execution {env : Platform} {gateway : GatewayAnswers} {mandate : Mandate}
    {operation : FinancialOperation} {payload : JsonValue.Dict} {e : Event}
    (he : e ∈ (executeGatewayOperation env gateway mandate operation payload s).events)
    (hid : reservedBy e = some id ∨ orderedBy e = some id) : operation.id = id := by
  rcases executeGatewayOperation_events he with ⟨call, _, rfl⟩ | rfl | rfl | rfl
  · rcases hid with hid | hid
    · cases hid
    · cases call with
      | createOrder _ _ _ _ => exact Option.some.inj hid
      | createPaymentLink _ _ _ _ _ _ _ => cases hid
      | createRefund _ _ _ => cases hid
  · rcases hid with hid | hid <;> cases hid
  · rcases hid with hid | hid <;> cases hid
  · rcases hid with hid | hid <;> cases hid

/-- The order of a link is created in the step that adds the link. -/
theorem ordered_of_executeGatewayOperation (env : Platform) (gateway : GatewayAnswers)
    (mandate : Mandate) (operation : FinancialOperation) (payload : JsonValue.Dict) (s : Store)
    {order : String}
    (hlink : (id, some order) ∈
      links (executeGatewayOperation env gateway mandate operation payload s).store) :
    (id, some order) ∈ links s ∨
      ∃ e ∈ (executeGatewayOperation env gateway mandate operation payload s).events,
        orderedBy e = some id := by
  have hadded {dispatched : Dispatched} {tx : Transaction} {s₁ : Store} {rest : List Event}
      (hattempt : (attemptGateway env gateway operation payload).2 = .ok dispatched)
      (htx : dispatched = .executing tx ∨ dispatched = .settled tx)
      (hlink : (id, some order) ∈ links s₁) (hrows : s₁.transactions = s.transactions ++ [tx]) :
      (id, some order) ∈ links s ∨
        ∃ e ∈ (attemptGateway env gateway operation payload).1.map (Event.gatewayCall operation) ++
          rest, orderedBy e = some id := by
    rw [links, hrows, List.map_append] at hlink
    rcases List.mem_append.mp hlink with hold | hnew
    · exact .inl hold
    · refine .inr ?_
      have hnew := List.mem_singleton.mp hnew
      obtain ⟨hid, hnone | ⟨_, _, _, _, _, -, -, hcalls⟩⟩ := attemptGateway_dispatched hattempt htx
      · have horder : some order = tx.gatewayOrderId := congrArg Prod.snd hnew
        rw [hnone] at horder
        cases horder
      · rw [hcalls]
        refine ⟨_, List.mem_append_left _ (List.mem_singleton_self _), ?_⟩
        exact congrArg some (hid.symm.trans (congrArg Prod.fst hnew).symm)
  unfold executeGatewayOperation at hlink ⊢
  cases hattempt : (attemptGateway env gateway operation payload).2 with
  | error text =>
    simp only [hattempt] at hlink
    exact .inl hlink
  | ok dispatched =>
    cases dispatched with
    | notDispatched =>
      simp only [hattempt] at hlink
      exact .inl hlink
    | executing tx =>
      simp only [hattempt] at hlink ⊢
      exact hadded hattempt (.inl rfl) hlink rfl
    | settled tx =>
      simp only [hattempt] at hlink ⊢
      exact hadded hattempt (.inr rfl) hlink rfl

theorem link_ordered (h : Step env settings s a events s') {order : String}
    (hlink : (id, some order) ∈ links s') :
    (id, some order) ∈ links s ∨ ∃ e ∈ events, orderedBy e = some id := by
  have hsame {s₁ : Store} (h : s₁.transactions = s.transactions) : links s₁ = links s :=
    congrArg (List.map linkOf) h
  have hkept (h : links s' = links s) : (id, some order) ∈ links s := h ▸ hlink
  cases h with
  | requested h =>
    cases h.decided with
    | rejected _ _ ht => exact .inl (hkept (hsame ht))
    | parked _ _ ht => exact .inl (hkept (hsame ht))
    | @dispatched s₀ _ _ done hdone hbefore =>
      subst hdone
      rcases ordered_of_executeGatewayOperation _ _ _ _ _ _ hlink with hold | ⟨e, he, hid⟩
      · exact .inl (hsame hbefore ▸ hold)
      · exact .inr ⟨e, List.mem_cons_of_mem _ (List.mem_cons_of_mem _ he), hid⟩
  | approved _ _ _ _ _ h =>
    cases h with
    | rejected _ ht => exact .inl (hkept (hsame ht))
    | @dispatched s₀ _ _ done hdone hbefore =>
      subst hdone
      rcases ordered_of_executeGatewayOperation _ _ _ _ _ _ hlink with hold | ⟨e, he, hid⟩
      · exact .inl (hsame hbefore ▸ hold)
      · exact .inr ⟨e, List.mem_cons_of_mem _ he, hid⟩
  | refused => exact .inl hlink
  | verified _ _ _ _ _ hlinks => exact .inl (hkept hlinks)
  | delivered h => exact .inl (hkept h.links)
  | swept _ _ hlinks _ => exact .inl (hkept hlinks)
  | created _ => exact .inl hlink
  | delegated _ => exact .inl hlink
  | suspended h => exact .inl (hkept (hsame h.only.transactions))
  | revoked h => exact .inl (hkept (hsame h.only.transactions))
  | activated _ _ => exact .inl hlink
  | agentChanged => exact .inl hlink

end Steps

/-! ### Steps on time -/

/-- A reservation falls on the creation of its operation, and so does the order, up to the
microsecond. -/
def OnTime (s : Store) (m : Moment) : Prop :=
  match m.action with
  | .request _ _ inputs => m.reserves ≤ inputs.createdAt ∧ m.orders ≤ inputs.createdAt + 1
  | .approve operationId approval _ _ => ∀ op,
      s.operationByOperationId operationId = .ok (some op) → op.status = .requiresApproval →
      approval.approved = true → m.reserves ≤ op.createdAt ∧ m.orders ≤ op.createdAt + 1
  | _ => True

section Timely

variable {env : Platform} {settings : Settings} {s s' : Store} {events : List Event} {m : Moment}
  {id : String}

/-- What a step on time notes of an operation. -/
theorem noted_on_time (h : Step env settings s m.action events s') (hon : OnTime s m) {e : Event}
    (he : e ∈ events) (hid : reservedBy e = some id ∨ orderedBy e = some id)
    {op : FinancialOperation} (hop : s'.operations.find? id = some op) :
    m.reserves ≤ op.createdAt ∧ m.orders ≤ op.createdAt + 1 := by
  have hplain : ∀ e ∈ events, Settling e → ¬ (reservedBy e = some id ∨ orderedBy e = some id) := by
    intro e _ hs hid
    cases e with
    | posted op target _ _ => rcases hs with rfl | rfl <;> rcases hid with hid | hid <;> cases hid
    | issued _ => rcases hid with hid | hid <;> cases hid
    | credited _ _ => rcases hid with hid | hid <;> cases hid
    | opened _ => cases hs
    | gatewayCall _ _ => cases hs
  rcases h.dispatch_cases with ⟨payload, headers, inputs, agent, mandate, result, ha, hreq⟩ |
    ⟨operationId, approval, now, gateway, op₀, mandate, ha, hfound, hstatus, hmandate, happ⟩ |
    hsettling
  · unfold OnTime at hon
    rw [ha] at hon
    have hthis : inputs.id = id := by
      cases hreq.decided with
      | rejected _ _ _ =>
        rcases List.mem_cons.mp he with rfl | he
        · rcases hid with hid | hid <;> cases hid
        · rw [List.mem_singleton.mp he] at hid
          rcases hid with hid | hid <;> cases hid
      | parked _ _ _ =>
        rcases List.mem_cons.mp he with rfl | he
        · rcases hid with hid | hid <;> cases hid
        · rw [List.mem_singleton.mp he] at hid
          rcases hid with hid | hid <;> cases hid
      | dispatched _ _ done hdone =>
        subst hdone
        rcases List.mem_cons.mp he with rfl | he
        · rcases hid with hid | hid <;> cases hid
        rcases List.mem_cons.mp he with rfl | he
        · rcases hid with hid | hid
          · exact Option.some.inj hid
          · cases hid
        · exact noted_by_execution he hid
    subst hthis
    have horder : (orders s').find? inputs.id = some (orderOf (newOperation env payload inputs)) :=
      Table.find?_insert_self hreq.ordered
    rw [orders_find?, hop] at horder
    have hcreated : op.createdAt = inputs.createdAt :=
      congrArg FinancialOperation.createdAt (Option.some.inj horder)
    rw [hcreated]
    exact hon
  · unfold OnTime at hon
    rw [ha] at hon
    cases happ with
    | rejected _ _ =>
      rw [List.mem_singleton.mp he] at hid
      rcases hid with hid | hid <;> cases hid
    | dispatched happroved _ done hdone =>
      subst hdone
      have hthis : op₀.id = id := by
        rcases List.mem_cons.mp he with rfl | he
        · rcases hid with hid | hid
          · exact Option.some.inj hid
          · cases hid
        · have hgranted := noted_by_execution he hid
          exact hgranted
      subst hthis
      obtain ⟨op', hop', horder⟩ :=
        h.operation_kept (Store.find?_of_operationByOperationId hfound).1
      rw [hop] at hop'
      cases hop'
      have hcreated := congrArg FinancialOperation.createdAt horder
      rw [show op.createdAt = op₀.createdAt from hcreated]
      exact hon op₀ hfound hstatus happroved
  · exact absurd hid (hplain e he (hsettling e he))

/-- The notes of runs on time. -/
structure Timely (x : TimedStore) : Prop where
  attached : Attached (ledger x.store)
  oneLink : OneLink x.store
  reserved : ∀ id op, x.store.operations.find? id = some op → op.status.inFlight = true →
    ∃ t, x.reservedAt id = some t ∧ t ≤ op.createdAt
  ordered : ∀ id order, (id, some order) ∈ links x.store → ∀ op,
    x.store.operations.find? id = some op → ∃ t, x.orderedAt id = some t ∧ t ≤ op.createdAt + 1

theorem timely_next {x : TimedStore} (h : Timely x) (hon : OnTime x.store m) :
    Timely ((timed env settings).next x m) := by
  have hstep : Step env settings x.store m.action
      ((controlPlane env settings).log x.store m.action)
      ((controlPlane env settings).next x.store m.action) := perform_step env settings x.store m.action
  -- what was noted before stays true: an operation keeps its creation
  have hkept {id : String} {op₀ op : FinancialOperation} (hop₀ : x.store.operations.find? id = some op₀)
      (hop : ((controlPlane env settings).next x.store m.action).operations.find? id = some op) :
      op.createdAt = op₀.createdAt := by
    obtain ⟨op', hop', horder⟩ := hstep.operation_kept hop₀
    rw [hop] at hop'
    cases hop'
    have hcreated := congrArg FinancialOperation.createdAt horder
    exact hcreated
  refine ⟨attached_step hstep h.attached, oneLink_step hstep h.oneLink, ?_, ?_⟩
  · intro id op hop hflight
    rcases stamp_cases reservedBy m.reserves ((controlPlane env settings).log x.store m.action)
      x.reservedAt id with ⟨e, he, hid⟩ | ⟨hnone, hsame⟩
    · exact ⟨_, stamp_of_mem he hid, (noted_on_time hstep hon he (.inl hid) hop).1⟩
    · rcases inFlight_origin hstep hop hflight with ⟨op₀, hop₀, hflight₀⟩ | ⟨e, he, hid⟩
      · obtain ⟨t, ht, hle⟩ := h.reserved id op₀ hop₀ hflight₀
        exact ⟨t, hsame.trans ht, by rw [hkept hop₀ hop]; exact hle⟩
      · exact absurd hid (hnone e he)
  · intro id order hlink op hop
    rcases stamp_cases orderedBy m.orders ((controlPlane env settings).log x.store m.action)
      x.orderedAt id with ⟨e, he, hid⟩ | ⟨hnone, hsame⟩
    · exact ⟨_, stamp_of_mem he hid, (noted_on_time hstep hon he (.inr hid) hop).2⟩
    · rcases link_ordered hstep hlink with hold | ⟨e, he, hid⟩
      · -- a linked operation is stored
        obtain ⟨hold₀, hfind₀, -⟩ := h.oneLink.dispatched _ hold
        rw [holds_find?] at hfind₀
        obtain ⟨op₀, hop₀, -⟩ := Option.map_eq_some_iff.mp hfind₀
        obtain ⟨t, ht, hle⟩ := h.ordered id order hold op₀ hop₀
        exact ⟨t, hsame.trans ht, by rw [hkept hop₀ hop]; exact hle⟩
      · exact absurd hid (hnone e he)

theorem Timely.punctual {x : TimedStore} (h : Timely x) : Punctual x := by
  intro op hop hflight _
  have hfind : x.store.operations.find? op.id = some op := Table.find?_of_mem hop
  refine ⟨h.reserved op.id op hfind hflight, ?_⟩
  rintro ⟨tx, htx, horder⟩
  obtain ⟨hm, hid⟩ := List.mem_filter.mp htx
  cases hgateway : tx.gatewayOrderId with
  | none =>
    rw [hgateway] at horder
    cases horder
  | some order =>
    have hlink : (op.id, some order) ∈ links x.store := by
      refine List.mem_map.mpr ⟨tx, hm, ?_⟩
      rw [linkOf, of_decide_eq_true hid, hgateway]
    obtain ⟨t, ht, hle⟩ := h.ordered op.id order hlink op hfind
    exact ⟨t, ht, .inl hle⟩

end Timely

/-- **No premature release, exactly.**  In every state a run reaches, every sweep that follows is
patient if and only if the state is punctual; and every run whose reservations and orders all fall
on the creation of their operations reaches patient states only. -/
theorem no_premature_release_iff (env : Platform) (settings : Settings) (s : Store) (now : ℤ)
    (moments : List Moment) (hoperations : s.operations.rows = []) (htransactions : s.transactions = []) :
    (timed env settings).Throughout (fun x => Patient x ↔ Punctual x) (unstamped s now) moments ∧
      ((timed env settings).Along (fun x m => OnTime x.store m) (unstamped s now) moments →
        (timed env settings).Throughout Patient (unstamped s now) moments) := by
  have hstart : Attached (ledger s) ∧ OneLink s := attached_and_oneLink_empty hoperations htransactions
  have hstep (x : TimedStore) (m : Moment) (h : Attached (ledger x.store) ∧ OneLink x.store) :
      Attached (ledger ((timed env settings).next x m).store) ∧
        OneLink ((timed env settings).next x m).store :=
    ⟨attached_step (perform_step env settings x.store m.action) h.1,
      oneLink_step (perform_step env settings x.store m.action) h.2⟩
  constructor
  · have hreached := @Machine.throughout_of_step _ _ _ (timed env settings)
      (fun x => Attached (ledger x.store) ∧ OneLink x.store) hstep (unstamped s now) hstart moments
    refine Machine.throughout_mono (fun x h => ?_) hreached
    have hone := OneLink.oneTransactionEach h.2
    exact ⟨punctual_of_patient hone fun op hop => mandate_of_attached h.1 hop,
      patient_of_punctual hone⟩
  · intro honTime
    have htimely : Timely (unstamped s now) := by
      refine ⟨hstart.1, hstart.2, fun id op hop _ => ?_, fun id order hlink => ?_⟩
      · have hm := Table.mem_of_find? hop
        rw [show (unstamped s now).store.operations.rows = s.operations.rows from rfl,
          hoperations] at hm
        cases hm
      · have hlinks : links s = [] := by rw [links, htransactions, List.map_nil]
        rw [show links (unstamped s now).store = links s from rfl, hlinks] at hlink
        cases hlink
    have hall := Machine.throughout_of_inv (M := timed env settings) (I := Timely)
      (fun x m h hon => timely_next h hon) htimely honTime
    refine Machine.throughout_mono (fun x h => ?_) hall
    exact patient_of_punctual (OneLink.oneTransactionEach h.oneLink) h.punctual

/-! ### A request at once and an approval an hour later -/

section Sampled

open Sample

/-- An action that reserves, creates its order and ends in one microsecond. -/
def Sample.moment (action : Action) (time : ℤ) : Moment :=
  ⟨action, time, time, time, le_refl time, le_refl time⟩

/-- The first order, reserved when it is requested. -/
theorem no_premature_release_requestA :
    (timed platform Sample.settings).Throughout (fun x => Patient x ↔ Punctual x)
        (unstamped store 0) [Sample.moment requestA 10] ∧
      (timed platform Sample.settings).Throughout Patient (unstamped store 0)
        [Sample.moment requestA 10] := by
  obtain ⟨hiff, hpatient⟩ :=
    no_premature_release_iff platform Sample.settings store 0 [Sample.moment requestA 10] rfl rfl
  exact ⟨hiff, hpatient ⟨⟨by decide, by decide⟩, trivial⟩⟩

/-- An order that waits for its approval for an hour. -/
def Sample.approvedLate : List Moment :=
  [Sample.moment requestA 10, Sample.moment (approve "operation_A" "order_A" 600 true) (microseconds 3600)]

/-- The event releases an operation that was reserved after an hour. -/
def releasesLate (x : TimedStore) : Event → Bool
  | .posted op .failed dReserved 0 => decide (dReserved = -op.amount) &&
      decide (x.reservedAt op.id = some (microseconds 3600))
  | _ => false

/-- **A sweep a minute after a late approval** fails the order, with a timeout of two minutes. -/
theorem late_approval_released :
    ¬ ∀ (env : Platform) (settings : Settings) (s : Store) (now : ℤ) (moments : List Moment),
      s.operations.rows = [] → s.transactions = [] →
      (timed env settings).Throughout Patient (unstamped s now) moments := by
  intro h
  obtain ⟨-, -, hpatient⟩ := h platform Sample.settings reviewStore 0 Sample.approvedLate rfl rfl
  have hreleased : (reconcileStuckReservations (sweepAt 120 (microseconds 3660))
      ((timed platform Sample.settings).run (unstamped reviewStore 0)
        Sample.approvedLate).store).toOption.map (fun c => c.events.any
          (releasesLate ((timed platform Sample.settings).run (unstamped reviewStore 0)
            Sample.approvedLate))) = some true := by
    decide +kernel
  have hnow : ((timed platform Sample.settings).run (unstamped reviewStore 0)
      Sample.approvedLate).now ≤ microseconds 3660 := by
    decide +kernel
  generalize hx : (timed platform Sample.settings).run (unstamped reviewStore 0)
    Sample.approvedLate = x at hreleased hnow
  have hpatient' : Patient x := hx ▸ hpatient
  cases hc : reconcileStuckReservations (sweepAt 120 (microseconds 3660)) x.store with
  | error refusal =>
    rw [hc] at hreleased
    cases hreleased
  | ok c =>
    rw [hc] at hreleased
    obtain ⟨e, he, hfailed⟩ := List.any_eq_true.mp (Option.some.inj hreleased)
    unfold releasesLate at hfailed
    split at hfailed
    · rename_i op dReserved
      rw [Bool.and_eq_true, decide_eq_true_eq, decide_eq_true_eq] at hfailed
      obtain ⟨rfl, hreserved⟩ := hfailed
      obtain ⟨t, ht, hage⟩ :=
        (hpatient' _ ⟨hnow, fun _ => le_refl _⟩ c hc op he).reserved
      rw [hreserved] at ht
      cases ht
      have hage' : microseconds 120 ≤ microseconds 3660 - microseconds 3600 := hage
      exact absurd hage' (by decide)
    · cases hfailed

end Sampled

end MandatePlane.SweepTiming

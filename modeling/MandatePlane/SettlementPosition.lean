import MandatePlane.FirstDecides
import MandatePlane.WebhookReplay
import MandatePlane.LedgerConsistency

/-!
# What a settlement event settles

A settlement event names a gateway order, and through the order's one transaction an
operation.  If the operation is in flight, the event moves its status, its amount and
its transaction; otherwise it does nothing.

Seen from the books and the transactions this is a step `settle` that reads nothing of
the event but the operation, the order and whether it was paid.  In balanced books the
domain handlers take exactly that step.  The first settlement of an operation decides,
for SUCCEEDED and FAILED are both terminal, and settlements of different operations
commute.
-/

namespace MandatePlane.SettlementPosition

open DomainModel KeyedTable HoldLedger LabelledRun LedgerView HostEnvironment JsonValue
open HandlerPostings WebhookRoutes WebhookReplay LedgerConsistency FirstDecides

/-! ### What settling does -/

/-- What a settlement event is about: an operation, the order of its transaction, and whether it
was paid or failed. -/
structure Settlement where
  operation : String
  order : String
  paid : Bool
  deriving DecidableEq

namespace Settlement

variable (x : Settlement)

def status : OperationStatus := if x.paid then .succeeded else .failed

def transactionStatus : TransactionStatus := if x.paid then .captured else .failed

/-- What it adds to `current_aggregate_spend`. -/
def committed (amount : ℤ) : ℤ := if x.paid then amount else 0

theorem status_not_inFlight : x.status.inFlight = false := by
  unfold status
  split <;> rfl

end Settlement

/-- Where the settlements stand: the books, and the link and status of every transaction. -/
structure Position where
  books : Books
  transactions : List ((String × Option String) × TransactionStatus)

def position (s : Store) : Position where
  books := ledger s
  transactions := s.transactions.map fun tx => (linkOf tx, tx.status)

/-- The settled transaction in its new status. -/
def mark (x : Settlement) (row : (String × Option String) × TransactionStatus) :
    (String × Option String) × TransactionStatus :=
  if row.1 = (x.operation, some x.order) then (row.1, x.transactionStatus) else row

/-- A settlement moves an operation in flight, its amount and its transaction; any other it leaves
alone. -/
def settle (p : Position) (x : Settlement) : Position :=
  match p.books.holds.find? x.operation with
  | none => p
  | some hold =>
    if hold.phase.inFlight then
      ⟨p.books.enter
          (.post x.operation hold.account x.status (-hold.amount) (x.committed hold.amount)),
        p.transactions.map (mark x)⟩
    else p

section Settling

variable {p : Position} {x y : Settlement} {hold : Hold String String OperationStatus ℤ}

theorem settle_of_inFlight (hfind : p.books.holds.find? x.operation = some hold)
    (hflight : hold.phase.inFlight = true) :
    settle p x = ⟨p.books.enter
        (.post x.operation hold.account x.status (-hold.amount) (x.committed hold.amount)),
      p.transactions.map (mark x)⟩ := by
  rw [settle, hfind]
  exact if_pos hflight

theorem settle_of_idle
    (h : ∀ hold, p.books.holds.find? x.operation = some hold → hold.phase.inFlight = false) :
    settle p x = p := by
  unfold settle
  split
  · rfl
  · rename_i hold hfind
    rw [if_neg (by rw [h hold hfind]; decide)]

/-- A settlement moves no other operation. -/
theorem settle_find?_of_ne {id : String} (hid : id ≠ x.operation) :
    (settle p x).books.holds.find? id = p.books.holds.find? id := by
  unfold settle
  split
  · rfl
  · split
    · exact (holds_enter_post _ _ _ _ _ _ _).trans (if_neg hid)
    · rfl

/-- An operation in flight ends as the settlement says. -/
theorem settle_find?_self (hfind : p.books.holds.find? x.operation = some hold)
    (hflight : hold.phase.inFlight = true) :
    (settle p x).books.holds.find? x.operation = some (hold.moveTo x.status) := by
  rw [settle_of_inFlight hfind hflight]
  refine (holds_enter_post _ _ _ _ _ _ _).trans ?_
  rw [if_pos rfl, hfind]
  rfl

/-- After a settlement its operation is not in flight. -/
theorem settle_idle {hold' : Hold String String OperationStatus ℤ}
    (h : (settle p x).books.holds.find? x.operation = some hold') :
    hold'.phase.inFlight = false := by
  cases hfind : p.books.holds.find? x.operation with
  | none =>
    rw [settle_of_idle (fun hold hsome => by rw [hfind] at hsome; cases hsome), hfind] at h
    cases h
  | some hold =>
    cases hflight : hold.phase.inFlight with
    | true =>
      rw [settle_find?_self hfind hflight] at h
      cases h
      exact x.status_not_inFlight
    | false =>
      have hidle : settle p x = p := settle_of_idle fun hold₁ hsome => by
        rw [hfind] at hsome
        cases hsome
        exact hflight
      rw [hidle, hfind] at h
      cases h
      exact hflight

theorem mark_comm (hne : x.operation ≠ y.operation)
    (row : (String × Option String) × TransactionStatus) :
    mark y (mark x row) = mark x (mark y row) := by
  unfold mark
  by_cases hx : row.1 = (x.operation, some x.order)
  · have hy : row.1 ≠ (y.operation, some y.order) := fun he =>
      hne (congrArg Prod.fst (hx.symm.trans he))
    rw [if_pos hx, if_neg hy, if_neg hy, if_pos hx]
  · rw [if_neg hx]
    by_cases hy : row.1 = (y.operation, some y.order)
    · rw [if_pos hy]
      exact (if_neg hx).symm
    · rw [if_neg hy, if_neg hx]

/-- Settlements of different operations commute. -/
theorem settle_comm (p : Position) (hne : x.operation ≠ y.operation) :
    settle (settle p x) y = settle (settle p y) x := by
  -- an idle operation is idle after the other settlement as well
  have hidle {x y : Settlement} (hne : x.operation ≠ y.operation)
      (h : ∀ hold, p.books.holds.find? x.operation = some hold → hold.phase.inFlight = false) :
      settle (settle p x) y = settle (settle p y) x := by
    have hafter : settle (settle p y) x = settle p y :=
      settle_of_idle fun hold hfind => h hold ((settle_find?_of_ne hne).symm.trans hfind)
    rw [hafter, settle_of_idle h]
  by_cases hx : ∃ hold, p.books.holds.find? x.operation = some hold ∧ hold.phase.inFlight = true
  · by_cases hy : ∃ hold, p.books.holds.find? y.operation = some hold ∧ hold.phase.inFlight = true
    · obtain ⟨hold, hx, hxflight⟩ := hx
      obtain ⟨hold', hy, hyflight⟩ := hy
      have hy' : (settle p x).books.holds.find? y.operation = some hold' :=
        (settle_find?_of_ne hne.symm).trans hy
      have hx' : (settle p y).books.holds.find? x.operation = some hold :=
        (settle_find?_of_ne hne).trans hx
      rw [settle_of_inFlight hy' hyflight, settle_of_inFlight hx' hxflight,
        settle_of_inFlight hx hxflight, settle_of_inFlight hy hyflight]
      congr 1
      · exact enter_post_comm _ hne _ _ _ _ _ _ _ _
      · rw [List.map_map, List.map_map]
        exact List.map_congr_left fun row _ => mark_comm hne row
    · refine (hidle hne.symm fun hold hfind => ?_).symm
      exact Bool.eq_false_iff.mpr fun hflight => hy ⟨hold, hfind, hflight⟩
  · exact hidle hne fun hold hfind => Bool.eq_false_iff.mpr fun hflight => hx ⟨hold, hfind, hflight⟩

/-- **The first settlement of an operation decides**, whatever else is settled in between. -/
theorem settle_firstDecides : DecidedByFirst settle Settlement.operation where
  comm p _ _ hne := settle_comm p hne
  done p x _ he := settle_of_idle fun _ hfind => @settle_idle p x _ (he ▸ hfind)

/-- An idle operation stays as it is. -/
theorem foldl_settle_idle {id : String} (xs : List Settlement) {p : Position}
    (hfind : p.books.holds.find? id = some hold) (hidle : hold.phase.inFlight = false) :
    (xs.foldl settle p).books.holds.find? id = some hold := by
  induction xs generalizing p with
  | nil => exact hfind
  | cons x xs ih =>
    refine ih ?_
    by_cases hx : x.operation = id
    · subst hx
      have hsame : settle p x = p := settle_of_idle fun hold' hfind' => by
        rw [hfind] at hfind'
        cases hfind'
        exact hidle
      rw [hsame]
      exact hfind
    · exact (settle_find?_of_ne fun he => hx he.symm).trans hfind

/-- Where an operation in flight ends: as its first settlement says. -/
theorem foldl_settle_leading {id : String} {xs : List Settlement} {p : Position}
    (hfind : p.books.holds.find? id = some hold) (hflight : hold.phase.inFlight = true)
    (hx : leading Settlement.operation xs id = some x) :
    (xs.foldl settle p).books.holds.find? id = some (hold.moveTo x.status) := by
  induction xs generalizing p with
  | nil => cases hx
  | cons y xs ih =>
    rw [leading_cons] at hx
    by_cases hy : y.operation = id
    · rw [if_pos hy] at hx
      cases hx
      subst hy
      exact foldl_settle_idle xs (settle_find?_self hfind hflight) x.status_not_inFlight
    · rw [if_neg hy] at hx
      exact ih ((settle_find?_of_ne fun he => hy he.symm).trans hfind) hx

end Settling

/-! ### What an event settles -/

/-- The order a capture names, if what it writes can be stored. -/
def capturedOrder (env : Platform) (payload : Json) : Option String :=
  match capturedReferences payload with
  | .error _ => none
  | .ok (orderRef, paymentRef) =>
    if orderRef.truthy && (!paymentRef.truthy || (env.bindText paymentRef).isOk) then
      (env.bindText orderRef).toOption
    else none

/-- The order a failure names, if what it writes can be stored. -/
def failedOrder (env : Platform) (payload : Json) : Option String :=
  match failedReferences payload with
  | .error _ => none
  | .ok (paymentEntity, orderRef) =>
    if orderRef.truthy && (failureMessage env paymentEntity).isOk then
      (env.bindText orderRef).toOption
    else none

/-- The order an event names, and whether it was paid. -/
def aimed (env : Platform) (eventData : Json) : Option (String × Bool) :=
  match eventData.get "payload" (.obj []), eventData.get "event" (.str "unknown") with
  | .ok payload, .ok (.str eventType) =>
    if eventType = "order.paid" ∨ eventType = "payment.captured" then
      (capturedOrder env payload).map fun orderId => (orderId, true)
    else if eventType = "payment.failed" then
      (failedOrder env payload).map fun orderId => (orderId, false)
    else none
  | _, _ => none

/-- The operation of the order's one transaction. -/
def addressed (s : Store) (aim : String × Bool) : Option Settlement :=
  match (links s).filter fun link => link.2 = some aim.1 with
  | [link] => some ⟨link.1, aim.1, aim.2⟩
  | _ => none

/-- The position after an event that names an order. -/
def settledBy (s : Store) (aim : Option (String × Bool)) : Position :=
  (aim.bind (addressed s)).elim (position s) (settle (position s))

/-- The position after a handler; one that fails changes nothing. -/
def positionAfter (s : Store) : Except WebhookFault (Store × List Event) → Position
  | .ok done => position done.1
  | .error _ => position s

theorem links_filter (s : Store) (orderId : String) :
    ((links s).filter fun link => link.2 = some orderId) =
      (s.transactionsByOrder orderId).map linkOf := by
  unfold links Store.transactionsByOrder
  rw [List.filter_map]
  rfl

theorem addressed_eq_some {s : Store} {orderId : String} {paid : Bool} {x : Settlement} :
    addressed s (orderId, paid) = some x ↔
      ∃ tx, s.transactionsByOrder orderId = [tx] ∧ x = ⟨tx.operationId, orderId, paid⟩ := by
  unfold addressed
  dsimp only
  rw [links_filter]
  constructor
  · intro h
    split at h
    · rename_i link hlink
      obtain ⟨tx, htx, rfl⟩ := List.map_eq_singleton_iff.mp hlink
      exact ⟨tx, htx, (Option.some.inj h).symm⟩
    · cases h
  · rintro ⟨tx, htx, rfl⟩
    rw [htx]
    rfl

section Handlers

variable {env : Platform} {s : Store} {credited : String → ℤ} {payload : Json} {eventType : String}

/-- **The writes of a settlement settle**, in balanced books. -/
theorem position_settled {reference : Json} {orderId : String} {paid : Bool} {tx : Transaction}
    {op : FinancialOperation} {budget : Store × Event} {dReserved dCommitted : ℤ}
    {f : FinancialOperation → FinancialOperation} {hf : ∀ r, Keyed.key (f r) = Keyed.key r}
    {g : Transaction → Transaction} {e : AuditEvent}
    (hb : Balanced credited (ledger s)) (hp : PositiveAmounts s)
    (hres : Resolved env s reference s.transactionsByOrder orderId tx op)
    (hflight : op.status.inFlight = true)
    (hwrite : BudgetWrite op (Settlement.status ⟨op.id, orderId, paid⟩) s budget dReserved dCommitted)
    (htxs : budget.1.transactions = s.transactions)
    (hhold : ∀ r, operationHold (f r) =
      (operationHold r).moveTo (Settlement.status ⟨op.id, orderId, paid⟩))
    (hlink : ∀ r, linkOf (g r) = linkOf r)
    (hstatus : ∀ r, (g r).status = Settlement.transactionStatus ⟨op.id, orderId, paid⟩) :
    position (((budget.1.updateOperation op.id f hf).updateTransactions
        (fun tx => tx.gatewayOrderId = some orderId) g).audit e) =
      settle (position s) ⟨op.id, orderId, paid⟩ := by
  have hkey : op.id = tx.operationId := Table.key_of_find? hres.found
  have hhold' : (ledger s).holds.find? op.id = some (operationHold op) := by
    rw [holds_find?, hres.self]
    rfl
  obtain ⟨acc, hacc, hcover⟩ := covers_of_balanced hb (positiveAmounts_iff.mp hp) hhold'
  have hposting := hwrite.posting
  rw [hacc] at hposting
  obtain ⟨hReserved, hCommitted⟩ := hposting.moves hcover
  have hrelease : dReserved = -op.amount := by
    rw [hReserved, reservedIn, if_neg (by rw [Settlement.status_not_inFlight]; decide),
      reservedIn, if_pos hflight, zero_sub]
  have hcommit : dCommitted = Settlement.committed ⟨op.id, orderId, paid⟩ op.amount := by
    have hidle : op.status ≠ .succeeded := by
      intro he
      rw [he] at hflight
      cases hflight
    rw [hCommitted]
    unfold committedIn
    rw [if_neg hidle, sub_zero]
    cases paid <;> rfl
  have hbooks : (position s).books.holds.find? op.id = some (operationHold op) := hhold'
  rw [@settle_of_inFlight _ ⟨op.id, orderId, paid⟩ _ hbooks hflight]
  unfold position
  congr 1
  · rw [ledger_audit, ledger_updateTransactions, ledger_status _ hhold, hwrite.books, hrelease,
      hcommit]
    rfl
  · show ((budget.1.transactions.map fun r =>
        if decide (r.gatewayOrderId = some orderId) = true then g r else r).map fun tx =>
      (linkOf tx, tx.status)) = (s.transactions.map fun tx => (linkOf tx, tx.status)).map
        (mark ⟨op.id, orderId, paid⟩)
    rw [htxs, List.map_map, List.map_map]
    apply List.map_congr_left
    intro r hr
    show (linkOf (if decide (r.gatewayOrderId = some orderId) = true then g r else r),
      (if decide (r.gatewayOrderId = some orderId) = true then g r else r).status) =
        mark ⟨op.id, orderId, paid⟩ (linkOf r, r.status)
    unfold mark
    by_cases hr' : r.gatewayOrderId = some orderId
    · -- the order has one transaction, and it is the operation's
      have hm : r ∈ s.transactionsByOrder orderId :=
        List.mem_filter.mpr ⟨hr, decide_eq_true hr'⟩
      rw [hres.unique, List.mem_singleton] at hm
      have hlinked : linkOf r = (op.id, some orderId) := by
        rw [linkOf, hr', hm, hkey]
      rw [if_pos (decide_eq_true hr'), if_pos hlinked, hlink, hstatus]
    · have hlinked : linkOf r ≠ (op.id, some orderId) := fun he => hr' (congrArg Prod.snd he)
      rw [if_neg (by simpa using hr'), if_neg hlinked]

theorem capturedPaymentId_isOk {paymentRef : Json} {tx : Transaction} :
    (∃ gatewayPaymentId, capturedPaymentId env paymentRef tx = .ok gatewayPaymentId) ↔
      (!paymentRef.truthy || (env.bindText paymentRef).isOk) = true := by
  unfold capturedPaymentId columnText
  cases paymentRef.truthy with
  | false => exact ⟨fun _ => rfl, fun _ => ⟨_, rfl⟩⟩
  | true =>
    cases env.bindText paymentRef with
    | error _ => exact ⟨fun ⟨_, h⟩ => (by cases h), fun h => (by cases h)⟩
    | ok text => exact ⟨fun _ => rfl, fun _ => ⟨_, rfl⟩⟩

theorem capturedOrder_eq_some {orderId : String} :
    capturedOrder env payload = some orderId ↔
      ∃ refs, capturedReferences payload = .ok refs ∧ refs.1.truthy = true ∧
        env.bindText refs.1 = .ok orderId ∧
        (!refs.2.truthy || (env.bindText refs.2).isOk) = true := by
  unfold capturedOrder
  cases hrefs : capturedReferences payload with
  | error _ => exact ⟨fun h => (by cases h), fun ⟨_, h, _⟩ => (by cases h)⟩
  | ok refs =>
    obtain ⟨orderRef, paymentRef⟩ := refs
    dsimp only
    constructor
    · intro h
      split at h
      · rename_i hwritten
        obtain ⟨htruthy, hpayment⟩ := Bool.and_eq_true_iff.mp hwritten
        refine ⟨_, rfl, htruthy, ?_, hpayment⟩
        cases htext : env.bindText orderRef with
        | error _ =>
          rw [htext] at h
          cases h
        | ok text =>
          rw [htext] at h
          cases h
          rfl
      · cases h
    · rintro ⟨refs, hsame, htruthy, htext, hpayment⟩
      cases hsame
      rw [if_pos (Bool.and_eq_true_iff.mpr ⟨htruthy, hpayment⟩), htext]
      rfl

theorem failedOrder_eq_some {orderId : String} :
    failedOrder env payload = some orderId ↔
      ∃ refs, failedReferences payload = .ok refs ∧ refs.2.truthy = true ∧
        env.bindText refs.2 = .ok orderId ∧
        ∃ message, failureMessage env refs.1 = .ok message := by
  unfold failedOrder
  cases hrefs : failedReferences payload with
  | error _ => exact ⟨fun h => (by cases h), fun ⟨_, h, _⟩ => (by cases h)⟩
  | ok refs =>
    obtain ⟨paymentEntity, orderRef⟩ := refs
    dsimp only
    constructor
    · intro h
      split at h
      · rename_i hwritten
        obtain ⟨htruthy, hmessage⟩ := Bool.and_eq_true_iff.mp hwritten
        cases htext : env.bindText orderRef with
        | error _ =>
          rw [htext] at h
          cases h
        | ok text =>
          rw [htext] at h
          cases h
          cases hsaved : failureMessage env paymentEntity with
          | error _ =>
            rw [hsaved] at hmessage
            cases hmessage
          | ok message => exact ⟨_, rfl, htruthy, htext, message, hsaved⟩
      · cases h
    · rintro ⟨refs, hsame, htruthy, htext, message, hsaved⟩
      cases hsame
      dsimp only at hsaved htext htruthy
      rw [if_pos (by rw [htruthy, hsaved]; rfl), htext]
      rfl

/-- An event settles nothing if no operation in flight is resolved. -/
theorem settledBy_of_unresolved {orderId : String} {paid : Bool}
    (h : ∀ tx op, s.transactionsByOrder orderId = [tx] →
      s.operations.find? tx.operationId = some op → op.status.inFlight = false) :
    settledBy s (some (orderId, paid)) = position s := by
  unfold settledBy
  rw [Option.bind_some]
  cases hx : addressed s (orderId, paid) with
  | none => rfl
  | some x =>
    obtain ⟨tx, hunique, rfl⟩ := addressed_eq_some.mp hx
    refine settle_of_idle fun hold hfind => ?_
    have hfind' : (ledger s).holds.find? tx.operationId = some hold := hfind
    rw [holds_find?] at hfind'
    obtain ⟨op, hop, rfl⟩ := Option.map_eq_some_iff.mp hfind'
    exact h tx op hunique hop

theorem settledBy_of_resolved {reference : Json} {orderId : String} {paid : Bool}
    {tx : Transaction} {op : FinancialOperation}
    (hres : Resolved env s reference s.transactionsByOrder orderId tx op) :
    settledBy s (some (orderId, paid)) = settle (position s) ⟨op.id, orderId, paid⟩ := by
  have hkey : op.id = tx.operationId := Table.key_of_find? hres.found
  unfold settledBy
  rw [Option.bind_some, addressed_eq_some.mpr ⟨tx, hres.unique, rfl⟩, hkey]
  rfl

/-- **`_handle_payment_captured_event`** settles the operation it resolves. -/
theorem captured_settles (hb : Balanced credited (ledger s)) (hp : PositiveAmounts s) :
    positionAfter s (handlePaymentCapturedEvent env payload eventType s) =
      settledBy s ((capturedOrder env payload).map fun orderId => (orderId, true)) := by
  by_cases hwrites : ∃ refs orderId tx op gatewayPaymentId, capturedReferences payload = .ok refs ∧
      Resolved env s refs.1 s.transactionsByOrder orderId tx op ∧ op.status.inFlight = true ∧
      capturedPaymentId env refs.2 tx = .ok gatewayPaymentId
  · obtain ⟨refs, orderId, tx, op, gatewayPaymentId, hrefs, hres, hflight, hpid⟩ := hwrites
    have horder : capturedOrder env payload = some orderId :=
      capturedOrder_eq_some.mpr ⟨refs, hrefs, hres.truthy, hres.text,
        capturedPaymentId_isOk.mp ⟨_, hpid⟩⟩
    have hrow : withOperation s (s.transactionsByOrder orderId) = .ok (some (tx, op)) :=
      withOperation_eq_some.mpr ⟨hres.unique, hres.found⟩
    have hidle : op.status ≠ .succeeded := by
      intro he
      rw [he] at hflight
      cases hflight
    have hvalid : StateMachine.validateTransition op.status .succeeded
        s!"Webhook event: {eventType}" = .ok () :=
      StateMachine.validateTransition_eq_ok.mpr
        (StateMachine.canTransition_succeeded.mpr (.inl hflight))
    have hdone : handlePaymentCapturedEvent env payload eventType s =
        .ok (capture op eventType orderId gatewayPaymentId s) := by
      unfold handlePaymentCapturedEvent
      rw [hrefs]
      simp only [bind, Except.bind, hres.truthy, Bool.not_true, Bool.false_eq_true, if_false,
        queryText_eq_ok.mpr hres.text, hrow, if_neg hidle, hvalid, Except.mapError, hpid]
      rfl
    obtain ⟨dReserved, dCommitted, hwrite⟩ := captureBudget_write hflight
    rw [hdone, horder]
    refine Eq.trans ?_ (settledBy_of_resolved hres).symm
    exact position_settled hb hp hres hflight hwrite (captureBudget_transactions op s)
      (fun _ => rfl) (fun _ => rfl) fun _ => rfl
  · have hsame : positionAfter s (handlePaymentCapturedEvent env payload eventType s) =
        position s := by
      cases hdone : handlePaymentCapturedEvent env payload eventType s with
      | error _ => rfl
      | ok done =>
        rcases handlePaymentCapturedEvent_spec hdone with
          rfl | ⟨refs, orderId, tx, op, gatewayPaymentId, hrefs, hres, hflight, hpid, -⟩
        · rfl
        · exact absurd ⟨refs, orderId, tx, op, gatewayPaymentId, hrefs, hres, hflight, hpid⟩ hwrites
    rw [hsame]
    cases horder : capturedOrder env payload with
    | none => rfl
    | some orderId =>
      obtain ⟨refs, hrefs, htruthy, htext, hpayment⟩ := capturedOrder_eq_some.mp horder
      refine (settledBy_of_unresolved fun tx op hunique hfound => ?_).symm
      obtain ⟨gatewayPaymentId, hpid⟩ := (@capturedPaymentId_isOk env refs.2 tx).mpr hpayment
      exact Bool.eq_false_iff.mpr fun hflight => hwrites ⟨refs, orderId, tx, op, gatewayPaymentId,
        hrefs, ⟨htruthy, htext, hunique, hfound⟩, hflight, hpid⟩

/-- **`_handle_payment_failed_event`** settles the operation it resolves. -/
theorem failed_settles (hb : Balanced credited (ledger s)) (hp : PositiveAmounts s) :
    positionAfter s (handlePaymentFailedEvent env payload eventType s) =
      settledBy s ((failedOrder env payload).map fun orderId => (orderId, false)) := by
  by_cases hwrites : ∃ refs orderId tx op errorMessage, failedReferences payload = .ok refs ∧
      Resolved env s refs.2 s.transactionsByOrder orderId tx op ∧ op.status.inFlight = true ∧
      failureMessage env refs.1 = .ok errorMessage
  · obtain ⟨refs, orderId, tx, op, errorMessage, hrefs, hres, hflight, hmessage⟩ := hwrites
    have horder : failedOrder env payload = some orderId :=
      failedOrder_eq_some.mpr ⟨refs, hrefs, hres.truthy, hres.text, _, hmessage⟩
    have hrow : withOperation s (s.transactionsByOrder orderId) = .ok (some (tx, op)) :=
      withOperation_eq_some.mpr ⟨hres.unique, hres.found⟩
    have hdone : handlePaymentFailedEvent env payload eventType s =
        .ok (failPayment op eventType orderId errorMessage s) := by
      unfold handlePaymentFailedEvent
      rw [hrefs]
      simp only [bind, Except.bind, hres.truthy, Bool.not_true, Bool.false_eq_true, if_false,
        queryText_eq_ok.mpr hres.text, hrow, hflight, hmessage]
      rfl
    obtain ⟨dReserved, dCommitted, hwrite⟩ := failureBudget_write hflight
    rw [hdone, horder]
    refine Eq.trans ?_ (settledBy_of_resolved hres).symm
    exact position_settled hb hp hres hflight hwrite (failureBudget_transactions op s)
      (fun _ => rfl) (fun _ => rfl) fun _ => rfl
  · have hsame : positionAfter s (handlePaymentFailedEvent env payload eventType s) =
        position s := by
      cases hdone : handlePaymentFailedEvent env payload eventType s with
      | error _ => rfl
      | ok done =>
        rcases handlePaymentFailedEvent_spec hdone with
          rfl | ⟨refs, orderId, tx, op, errorMessage, hrefs, hres, hflight, hmessage, -⟩
        · rfl
        · exact absurd ⟨refs, orderId, tx, op, errorMessage, hrefs, hres, hflight, hmessage⟩ hwrites
    rw [hsame]
    cases horder : failedOrder env payload with
    | none => rfl
    | some orderId =>
      obtain ⟨refs, hrefs, htruthy, htext, errorMessage, hmessage⟩ := failedOrder_eq_some.mp horder
      refine (settledBy_of_unresolved fun tx op hunique hfound => ?_).symm
      exact Bool.eq_false_iff.mpr fun hflight => hwrites ⟨refs, orderId, tx, op, errorMessage,
        hrefs, ⟨htruthy, htext, hunique, hfound⟩, hflight, hmessage⟩

/-- **The domain handlers settle what the event names.** -/
theorem handled_settles {fields : Dict} (hb : Balanced credited (ledger s)) (hp : PositiveAmounts s)
    (htype : givenType fields = .str eventType)
    (hsettles : eventType = "order.paid" ∨ eventType = "payment.captured" ∨
      eventType = "payment.failed") :
    position (handled env fields s) = settledBy s (aimed env (.obj fields)) := by
  have hafter : position (handled env fields s) = positionAfter s
      (processDomainWebhookEvent env (givenType fields) (.obj fields) s) := by
    unfold handled
    cases processDomainWebhookEvent env (givenType fields) (.obj fields) s <;> rfl
  have hget : (Json.obj fields).get "event" (.str "unknown") = .ok (givenType fields) := rfl
  have hpayload : (Json.obj fields).get "payload" (.obj []) =
      .ok (dictGet fields "payload" (.obj [])) := rfl
  have hvalue : getValue (.obj fields) "payload" (.obj []) =
      .ok (dictGet fields "payload" (.obj [])) := rfl
  rw [hafter]
  unfold aimed processDomainWebhookEvent
  rw [hget, htype, hpayload]
  simp only [hvalue, bind, Except.bind]
  by_cases hpaid : eventType = "order.paid" ∨ eventType = "payment.captured"
  · rw [if_pos hpaid, if_pos hpaid]
    exact captured_settles hb hp
  · have hfailed : eventType = "payment.failed" := by
      rcases hsettles with h | h | h
      · exact absurd (.inl h) hpaid
      · exact absurd (.inr h) hpaid
      · exact h
    rw [if_neg hpaid, if_neg hpaid, if_pos hfailed, if_pos hfailed]
    exact failed_settles hb hp

end Handlers

end MandatePlane.SettlementPosition

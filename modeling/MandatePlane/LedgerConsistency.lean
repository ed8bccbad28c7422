import MandatePlane.ControlPlane
import Mathlib.Data.Int.ConditionallyCompleteOrder
import Mathlib.Order.ConditionallyCompleteLattice.Basic

/-!
# The two counters of a mandate over whole runs

As long as a payment is only verified for an operation that waits for it, the
counters are sums over the operations: `reserved_spend` over the ones in flight,
`current_aggregate_spend` over the settled ones less the credited refunds.

The limit is another matter: whatever is verified, a run stays within every
mandate's limit unless a captured payment finds its reservation gone and is
committed on top.
-/

namespace MandatePlane.LedgerConsistency

open DomainModel KeyedTable HoldLedger LabelledRun LedgerView HostEnvironment HandlerPostings
open ControlPlane WebhookRoutes JsonValue

/-! ### Amounts -/

/-- Every stored operation has a positive amount. -/
def PositiveAmounts (s : Store) : Prop := ∀ op ∈ s.operations.rows, 0 < op.amount

theorem positiveAmounts_iff {s : Store} :
    PositiveAmounts s ↔ ∀ h ∈ (ledger s).holds.rows, 0 < h.amount := by
  constructor
  · intro hp h hm
    obtain ⟨op, hop, rfl⟩ := List.mem_map.mp hm
    exact hp op hop
  · intro hp op hop
    exact hp (operationHold op) (List.mem_map_of_mem hop)

/-- Entering a log that opens only positive amounts leaves only positive amounts. -/
theorem amounts_eventBook {L : Books} {events : List Event}
    (hopened : ∀ op, .opened op ∈ events → 0 < op.amount)
    (ha : ∀ h ∈ L.holds.rows, 0 < h.amount) :
    ∀ h ∈ (eventBook.run L events).holds.rows, 0 < h.amount := by
  induction events generalizing L with
  | nil => exact ha
  | cons e events ih =>
    refine ih (fun op hm => hopened op (List.mem_cons_of_mem _ hm)) ?_
    refine amounts_enter ha fun h he => ?_
    cases e with
    | opened op =>
      cases he
      exact hopened op List.mem_cons_self
    | issued _ => cases he
    | posted _ _ _ _ => cases he
    | credited _ _ => cases he
    | gatewayCall _ _ => cases he

/-- A ruled observation opens only positive amounts. -/
theorem amounts_of_rule {L : Books} {e : Event} (ha : ∀ h ∈ L.holds.rows, 0 < h.amount)
    (hr : EventRule L e) : ∀ h ∈ (eventBook.next L e).holds.rows, 0 < h.amount := by
  have hopened : ∀ op, .opened op ∈ [e] → 0 < op.amount := by
    intro op hm
    rw [List.mem_singleton] at hm
    subst hm
    exact hr.2.1
  exact amounts_eventBook hopened ha

variable {env : Platform} {settings : Settings} {s s' : Store} {a : Action} {events : List Event}

theorem positiveAmounts_step (h : Step env settings s a events s') (hp : PositiveAmounts s) :
    PositiveAmounts s' := by
  rw [positiveAmounts_iff] at hp ⊢
  rw [h.books]
  exact amounts_eventBook (fun op hm => h.opened_pos hm) hp

/-! ### The balance of the counters -/

/-- A balanced ledger has the account of every operation, and the account covers the amount while
the operation is in flight. -/
theorem covers_of_balanced {L : Books} {credited : String → ℤ} {op : FinancialOperation}
    (hb : Balanced credited L) (ha : ∀ h ∈ L.holds.rows, 0 < h.amount)
    (hfind : L.holds.find? op.id = some (operationHold op)) :
    ∃ acc, L.accounts.find? op.mandateId = some acc ∧
      (op.status.inFlight = true → op.amount ≤ acc.held) := by
  have hmem : operationHold op ∈ L.holds.rows := Table.mem_of_find? hfind
  obtain ⟨acc, hacc⟩ := hb.attached _ hmem
  exact ⟨acc, hacc, fun hflight => amount_le_held hb.heldTotals (fun h hh => (ha h hh).le) hmem hflight hacc⟩

/-- **A ruled observation is a faithful entry.**  A balanced ledger covers every held amount, so
the fallbacks for a reservation or a mandate that is gone cannot be taken. -/
theorem faithful_of_rule {L : Books} {credited : String → ℤ} {e : Event}
    (hb : Balanced credited L) (ha : ∀ h ∈ L.holds.rows, 0 < h.amount) (hr : EventRule L e) :
    Faithful L (entry e) := by
  cases e with
  | issued m => exact ⟨hr.1, hr.2.1⟩
  | opened op =>
    obtain ⟨hstatus, -, -, hacc⟩ := hr
    refine ⟨?_, ?_, hacc⟩
    · show op.status.inFlight = false
      rw [hstatus]
      rfl
    · show decide (op.status = .succeeded) = false
      rw [hstatus]
      rfl
  | credited mandateId amount => exact hr
  | gatewayCall op call => trivial
  | posted op target dReserved dCommitted =>
    obtain ⟨hfind, hposting⟩ := hr
    obtain ⟨acc, hacc, hcover⟩ := covers_of_balanced hb ha hfind
    rw [hacc] at hposting
    obtain ⟨hReserved, hCommitted⟩ := hposting.moves hcover
    have hheld (h : Hold String String OperationStatus ℤ) :
        heldPart h.account h = reservedIn h.phase h.amount := by
      simp only [heldPart, true_and]
      rfl
    have hspent (h : Hold String String OperationStatus ℤ) :
        spentPart h.account h = committedIn h.phase h.amount := by
      simp only [spentPart, true_and]
      simp [HoldPhase.spent, committedIn]
    refine ⟨operationHold op, hfind, rfl, ?_, ?_⟩
    · rw [hReserved]
      exact congrArg₂ _ (hheld ((operationHold op).moveTo target)).symm
        (hheld (operationHold op)).symm
    · rw [hCommitted]
      exact congrArg₂ _ (hspent ((operationHold op).moveTo target)).symm
        (hspent (operationHold op)).symm

/-- What the processed refunds of a log credited to a mandate. -/
def creditedTo (events : List Event) (mandateId : String) : ℤ :=
  (events.map fun
    | .credited id amount => if id = mandateId then amount else 0
    | _ => 0).sum

theorem creditedTo_eq (events : List Event) (mandateId : String) :
    creditedTo events mandateId = creditedBy (events.map entry) mandateId := by
  rw [creditedTo, creditedBy, List.map_map]
  congr 1
  apply List.map_congr_left
  intro e _
  cases e <;> rfl

/-- What balanced books and the rule for observations imply of one observation holds along a ruled
log. -/
theorem along_of_balanced {P Q : Books → Event → Prop} {L : Books} {credited : String → ℤ}
    {events : List Event} (hq : ∀ L credited e, Balanced credited L →
      (∀ h ∈ L.holds.rows, 0 < h.amount) → EventRule L e → P L e → Q L e)
    (hb : Balanced credited L) (ha : ∀ h ∈ L.holds.rows, 0 < h.amount)
    (hr : eventBook.Along EventRule L events) (hp : eventBook.Along P L events) :
    eventBook.Along Q L events := by
  have hstep : ∀ (L : Books) (e : Event),
      ((∃ credited, Balanced credited L) ∧ ∀ h ∈ L.holds.rows, 0 < h.amount) →
        (EventRule L e ∧ P L e) → (∃ credited, Balanced credited (eventBook.next L e)) ∧
          ∀ h ∈ (eventBook.next L e).holds.rows, 0 < h.amount := by
    rintro L e ⟨⟨credited, hb⟩, ha⟩ ⟨hr, -⟩
    exact ⟨⟨_, balanced_enter hb (faithful_of_rule hb ha hr)⟩, amounts_of_rule ha hr⟩
  refine Machine.along_of_inv hstep (fun L e hI hr => ?_) ⟨⟨credited, hb⟩, ha⟩
    (Machine.along_and hr hp)
  obtain ⟨⟨credited, hb⟩, ha⟩ := hI
  exact hq L credited e hb ha hr.1 hr.2

/-- A ruled log is faithful all along. -/
theorem along_faithful {L : Books} {credited : String → ℤ} {events : List Event}
    (hb : Balanced credited L) (ha : ∀ h ∈ L.holds.rows, 0 < h.amount)
    (hr : eventBook.Along EventRule L events) :
    book.Along Faithful L (events.map entry) :=
  along_entries (along_of_balanced (fun _ _ _ hb ha hr _ => faithful_of_rule hb ha hr) hb ha hr hr)

/-- **One step keeps the balance**, the refunds it credits counted. -/
theorem balanced_step {credited : String → ℤ} (h : Step env settings s a events s')
    (hverify : VerifiesInFlight env settings s a) (hp : PositiveAmounts s)
    (hb : Balanced credited (ledger s)) :
    Balanced (fun id => credited id + creditedTo events id) (ledger s') := by
  rw [h.books, eventBook_run]
  simp only [creditedTo_eq]
  exact balanced_run hb (along_faithful hb (positiveAmounts_iff.mp hp) (h.ruled hverify))

/-- A store in which nothing has been requested yet. -/
structure Fresh (s : Store) : Prop where
  operations : s.operations.rows = []
  counters : ∀ m ∈ s.mandates.rows, m.currentAggregateSpend = 0 ∧ m.reservedSpend = 0

theorem Fresh.balanced (h : Fresh s) : Balanced (creditedTo []) (ledger s) := by
  have hnone : (ledger s).holds.rows = [] := by
    show s.operations.rows.map operationHold = []
    rw [h.operations, List.map_nil]
  refine ⟨fun acc hacc => ?_, fun hold hm => ?_, fun _ _ => rfl⟩
  · obtain ⟨m, hm, rfl⟩ := List.mem_map.mp hacc
    rw [Table.sum, Table.sum, hnone]
    exact ⟨(h.counters m hm).2, (h.counters m hm).1⟩
  · rw [hnone] at hm
    cases hm

theorem Fresh.positive (h : Fresh s) : PositiveAmounts s := by
  intro op hm
  rw [h.operations] at hm
  cases hm

/-- **The books agree.**  For every mandate, `reserved_spend` is the sum of the amounts of its
operations in flight, `current_aggregate_spend` the sum of the amounts of its SUCCEEDED operations
less the refunds the log credits to it, and nothing is reserved below zero. -/
def Consistent (events : List Event) (s : Store) : Prop :=
  ∀ m ∈ s.mandates.rows,
    m.reservedSpend = s.operations.sum (fun op =>
      if op.mandateId = m.id ∧ op.status.inFlight = true then op.amount else 0) ∧
    m.currentAggregateSpend = s.operations.sum (fun op =>
      if op.mandateId = m.id ∧ op.status = .succeeded then op.amount else 0) -
        creditedTo events m.id ∧
    0 ≤ m.reservedSpend

theorem consistent_of_balanced (hb : Balanced (creditedTo events) (ledger s))
    (hp : PositiveAmounts s) : Consistent events s := by
  intro m hm
  have hmem : mandateAccount m ∈ (ledger s).accounts.rows := List.mem_map_of_mem hm
  obtain ⟨hheld, hspent⟩ := hb.totals _ hmem
  have hnonneg := held_nonneg hb (fun h hh => (positiveAmounts_iff.mp hp h hh).le) hmem
  refine ⟨?_, ?_, hnonneg⟩
  · rw [ledger, Table.sum_mapRows] at hheld
    exact hheld
  · rw [ledger, Table.sum_mapRows] at hspent
    refine hspent.trans ?_
    congr 1
    apply Table.sum_congr
    intro op _
    by_cases hs : op.status = .succeeded <;>
      simp [spentPart, operationHold, mandateAccount, HoldPhase.spent, hs]

/-- The balance over a run that verifies payments of operations in flight only. -/
theorem balanced_trace (hfresh : Fresh s) {actions : List Action}
    (hverify : (controlPlane env settings).Along (VerifiesInFlight env settings) s actions) :
    Balanced (creditedTo ((controlPlane env settings).trace s actions))
        (ledger ((controlPlane env settings).run s actions)) ∧
      PositiveAmounts ((controlPlane env settings).run s actions) := by
  have hstep : ∀ (es : List Event) (s : Store) (a : Action),
      (Balanced (creditedTo es) (ledger s) ∧ PositiveAmounts s) → VerifiesInFlight env settings s a →
        Balanced (creditedTo (es ++ (controlPlane env settings).log s a))
            (ledger ((controlPlane env settings).next s a)) ∧
          PositiveAmounts ((controlPlane env settings).next s a) := by
    rintro es s a ⟨hb, hp⟩ hv
    have h := perform_step env settings s a
    refine ⟨?_, positiveAmounts_step h hp⟩
    have hsum : creditedTo (es ++ (perform env settings s a).2) =
        fun id => creditedTo es id + creditedTo (perform env settings s a).2 id := by
      funext id
      rw [creditedTo, List.map_append, List.sum_append]
      rfl
    show Balanced (creditedTo (es ++ (perform env settings s a).2)) _
    rw [hsum]
    exact balanced_step h hv hp hb
  exact Machine.inv_run_trace hstep ⟨hfresh.balanced, hfresh.positive⟩ hverify

/-- **Ledger consistency.**  In a run that starts before any request and verifies payments of
operations in flight only, the books agree in every state. -/
theorem ledger_consistent (env : Platform) (settings : Settings) (s : Store)
    (actions : List Action) (hfresh : Fresh s)
    (hverify : (controlPlane env settings).Along (VerifiesInFlight env settings) s actions) :
    ∀ taken, taken <+: actions →
      Consistent ((controlPlane env settings).trace s taken)
        ((controlPlane env settings).run s taken) := by
  intro taken htaken
  obtain ⟨hb, hp⟩ := balanced_trace hfresh (Machine.along_of_prefix htaken hverify)
  exact consistent_of_balanced hb hp

/-- One request and its verified payment. -/
theorem ledger_consistent_requestA_verifyA :
    Consistent
      ((controlPlane Sample.platform Sample.settings).trace Sample.store
        [Sample.requestA, Sample.verifyA])
      ((controlPlane Sample.platform Sample.settings).run Sample.store
        [Sample.requestA, Sample.verifyA]) := by
  refine ledger_consistent _ _ _ [Sample.requestA, Sample.verifyA] ⟨rfl, by decide⟩
    ⟨trivial, fun op tx h => ?_, trivial⟩ _ (List.prefix_refl _)
  have hall : ((controlPlane Sample.platform Sample.settings).next Sample.store
      Sample.requestA).operations.rows.all (fun op => op.status.inFlight) = true := by
    decide +kernel
  exact List.all_eq_true.mp hall op (Table.mem_of_find? h.self)

/-- A payment verified twice: the mandate has reserved less than nothing. -/
theorem not_consistent_of_second_verification :
    Fresh Sample.store ∧
      ¬ Consistent
        ((controlPlane Sample.platform Sample.settings).trace Sample.store
          [Sample.requestA, Sample.verifyA, Sample.verifyA])
        ((controlPlane Sample.platform Sample.settings).run Sample.store
          [Sample.requestA, Sample.verifyA, Sample.verifyA]) := by
  refine ⟨⟨rfl, by decide⟩, fun h => ?_⟩
  have hreserved : ((controlPlane Sample.platform Sample.settings).run Sample.store
      [Sample.requestA, Sample.verifyA, Sample.verifyA]).mandates.rows.map
        Mandate.reservedSpend = [-600] := by
    decide +kernel
  obtain ⟨m, hm, hneg⟩ := List.mem_map.mp (hreserved ▸ List.mem_singleton_self (-600 : ℤ))
  have hnonneg := (h m hm).2.2
  omega

/-! ### The limits -/

/-- `current_aggregate_spend + reserved_spend <= aggregate_spend_limit` for every mandate. -/
def WithinAggregateLimits (s : Store) : Prop :=
  ∀ m ∈ s.mandates.rows, m.currentAggregateSpend + m.reservedSpend ≤ m.aggregateSpendLimit

/-- The bound an account sets itself. -/
def ownLimit (_ : String) (limit : ℤ) : ℤ := limit

theorem withinAggregateLimits_iff {s : Store} :
    WithinAggregateLimits s ↔ WithinLimits ownLimit (ledger s) := by
  constructor
  · intro hw acc hm
    obtain ⟨m, hmem, rfl⟩ := List.mem_map.mp hm
    exact hw m hmem
  · intro hw m hm
    exact hw (mandateAccount m) (List.mem_map_of_mem hm)

/-- A captured-payment delivery that settles `op`. -/
structure Captures (env : Platform) (settings : Settings) (s : Store) (delivery : WebhookDelivery)
    (op : FinancialOperation) : Prop where
  accepted : ∃ eventData eventType eventId payload refs orderId tx,
    Accepted env settings delivery s eventData (.str eventType) eventId ∧
    (eventType = "order.paid" ∨ eventType = "payment.captured") ∧
    eventData.get "payload" (.obj []) = .ok payload ∧
    capturedReferences payload = .ok refs ∧
    Resolved env s refs.1 s.transactionsByOrder orderId tx op
  inFlight : op.status.inFlight = true

/-- A captured payment whose reservation does not cover the amount still finds room for it. -/
def CapturedFits (env : Platform) (settings : Settings) (s : Store) : Action → Prop
  | .webhook delivery => ∀ op mandate, Captures env settings s delivery op →
      s.mandates.find? op.mandateId = some mandate → mandate.reservedSpend < op.amount →
      mandate.currentAggregateSpend + mandate.reservedSpend + op.amount ≤
        mandate.aggregateSpendLimit
  | _ => True

/-- A refund amount that takes nothing below zero off: a non-negative number, or a value of
another kind the database does not turn into a gain. -/
def NonnegativeAmount (env : Platform) : Json → Prop
  | .int amount => 0 ≤ amount
  | value => ∀ n n', env.minusNonInteger n value = .ok n' → n' ≤ n

/-- The refunds a delivery reports have non-negative amounts. -/
def NonnegativeRefunds (env : Platform) : Action → Prop
  | .webhook delivery => ∀ eventData payload refs, env.jsonLoads delivery.rawBody = some eventData →
      eventData.get "event" (.str "unknown") = .ok (.str "refund.processed") →
      eventData.get "payload" (.obj []) = .ok payload → refundReferences payload = .ok refs →
      NonnegativeAmount env refs.2
  | _ => True

theorem minus_le {amount : Json} {n n' : ℤ} (hn : NonnegativeAmount env amount)
    (h : env.minus n amount = .ok n') : n' ≤ n := by
  cases amount with
  | int k =>
    have hk : 0 ≤ k := hn
    cases h
    omega
  | null => exact hn n n' h
  | bool b => exact hn n n' h
  | float text nonzero => exact hn n n' h
  | str text => exact hn n n' h
  | arr items => exact hn n n' h
  | obj fields => exact hn n n' h

/-- A commit that takes nothing from the reservation leaves room, and no credit is negative. -/
def Covered (bound : String → ℤ → ℤ) (L : Books) : Event → Prop
  | .posted op target dReserved dCommitted => target = .succeeded → dReserved = 0 →
      dCommitted ≠ 0 → ∀ acc, L.accounts.find? op.mandateId = some acc →
        acc.spent + acc.held + dCommitted ≤ bound acc.id acc.limit
  | .credited _ amount => 0 ≤ amount
  | _ => True

/-- A reservation and a new mandate leave room. -/
def ReservesWithin (bound : String → ℤ → ℤ) (L : Books) : Event → Prop
  | .posted op target dReserved _ => target = .reserved →
      ∀ acc, L.accounts.find? op.mandateId = some acc →
        acc.spent + acc.held + dReserved ≤ bound acc.id acc.limit
  | .issued mandate => mandate.currentAggregateSpend + mandate.reservedSpend ≤
      bound mandate.id mandate.aggregateSpendLimit
  | _ => True

/-- The conditional reservation keeps to the mandate's own limit. -/
theorem reservesWithin_ownLimit {L : Books} {e : Event} (hr : EventRule L e) :
    ReservesWithin ownLimit L e := by
  cases e with
  | issued m =>
    obtain ⟨hReserved, hCommitted, hlimit, -⟩ := hr
    show m.currentAggregateSpend + m.reservedSpend ≤ m.aggregateSpendLimit
    omega
  | opened op => trivial
  | gatewayCall op call => trivial
  | credited mandateId amount => trivial
  | posted op target dReserved dCommitted =>
    obtain ⟨-, hposting⟩ := hr
    rintro rfl acc hacc
    generalize op.status = source at hposting
    cases hposting with
    | reserve _ hacc' hroom =>
      rw [hacc] at hacc'
      cases hacc'
      exact hroom

/-- **A ruled observation that reserves within a bound and is covered fits the bound.** -/
theorem fits_of_rule {bound : String → ℤ → ℤ} {L : Books} {e : Event}
    (hw : WithinLimits bound L) (ha : ∀ h ∈ L.holds.rows, 0 < h.amount) (hr : EventRule L e)
    (hres : ReservesWithin bound L e) (hc : Covered bound L e) : Fits bound L (entry e) := by
  cases e with
  | issued m => exact hres
  | opened op => trivial
  | gatewayCall op call => trivial
  | credited mandateId amount =>
    intro acc hacc
    have hle := hw acc (Table.mem_of_find? hacc)
    have hcredit : 0 ≤ amount := hc
    omega
  | posted op target dReserved dCommitted =>
    obtain ⟨hfind, hposting⟩ := hr
    have hpos : 0 < op.amount := ha _ (Table.mem_of_find? hfind)
    generalize op.status = source at hposting
    cases hposting with
    | reject _ => exact fits_post_of_nonpos hw le_rfl
    | park => exact fits_post_of_nonpos hw le_rfl
    | execute => exact fits_post_of_nonpos hw le_rfl
    | releaseUncovered _ _ _ => exact fits_post_of_nonpos hw le_rfl
    | commitUnfunded _ _ => exact fits_post_of_nonpos hw le_rfl
    | releaseUnfunded _ _ => exact fits_post_of_nonpos hw le_rfl
    | commit _ => exact fits_post_of_nonpos hw (by omega)
    | release _ => exact fits_post_of_nonpos hw (by omega)
    | reserve _ _ _ =>
      intro acc hacc
      have hroom := hres rfl acc hacc
      omega
    | commitUncovered _ _ _ =>
      intro acc hacc
      have hroom := hc rfl rfl hpos.ne' acc hacc
      omega

/-- **A log and the bounds.**  A ruled log that reserves within a bound and is covered keeps it. -/
theorem withinLimits_log {bound : String → ℤ → ℤ} {L : Books} {events : List Event}
    (hw : WithinLimits bound L) (ha : ∀ h ∈ L.holds.rows, 0 < h.amount)
    (hr : eventBook.Along EventRule L events)
    (hres : eventBook.Along (ReservesWithin bound) L events)
    (hc : eventBook.Along (Covered bound) L events) :
    WithinLimits bound (eventBook.run L events) := by
  have hstep : ∀ (L : Books) (e : Event),
      (WithinLimits bound L ∧ ∀ h ∈ L.holds.rows, 0 < h.amount) →
        (EventRule L e ∧ ReservesWithin bound L e ∧ Covered bound L e) →
          WithinLimits bound (eventBook.next L e) ∧
            ∀ h ∈ (eventBook.next L e).holds.rows, 0 < h.amount := by
    rintro L e ⟨hw, ha⟩ ⟨hr, hres, hc⟩
    exact ⟨withinLimits_enter_of_fits hw (fits_of_rule hw ha hr hres hc), amounts_of_rule ha hr⟩
  exact (Machine.inv_run hstep ⟨hw, ha⟩
    (Machine.along_and hr (Machine.along_and hres hc))).1

/-- What a gateway execution posts is covered. -/
theorem covered_of_executeGatewayOperation {env : Platform} {gateway : RazorpayClient.GatewayAnswers}
    {mandate : Mandate} {operation : FinancialOperation} {payload : Dict} {s : Store} {L : Books}
    {bound : String → ℤ → ℤ} {e : Event}
    (he : e ∈ (OperationRoutes.executeGatewayOperation env gateway mandate operation payload
      s).events) : Covered bound L e := by
  rcases executeGatewayOperation_events he with ⟨call, -, rfl⟩ | rfl | rfl | rfl
  · trivial
  · intro htarget
    cases htarget
  · intro _ hzero hne
    omega
  · intro htarget
    cases htarget

/-- A delivery of a captured payment or a refund is covered by the side conditions on it. -/
theorem delivered_covered {delivery : WebhookDelivery}
    (h : Delivered env settings delivery s events s')
    (hfits : CapturedFits env settings s (.webhook delivery))
    (hrefund : NonnegativeRefunds env (.webhook delivery)) :
    eventBook.Along (Covered ownLimit) (ledger s) events := by
  cases h with
  | recorded => trivial
  | processed haccepted hdone _ =>
    cases hdone with
    | ignored => trivial
    | failed _ _ _ hres hflight _ =>
      obtain ⟨dReserved, dCommitted, hwrite⟩ := failureBudget_write hflight
      refine ⟨?_, trivial⟩
      rw [hwrite.event]
      intro htarget
      cases htarget
    | @refunded payload refs _ _ _ mandate committed hpayload hrefs _ _ hminus =>
      have hle := minus_le (hrefund _ payload refs haccepted.body haccepted.type hpayload hrefs)
        hminus
      refine ⟨?_, trivial⟩
      show 0 ≤ mandate.currentAggregateSpend - committed
      omega
    | @captured eventType payload refs orderId tx op _ htype hpayload hrefs hres hflight _ =>
      refine ⟨?_, trivial⟩
      show Covered ownLimit (ledger s) (captureBudget op _).2
      unfold captureBudget
      split
      · intro _ _ hne
        exact absurd rfl hne
      · rename_i mandate hmandate
        split
        · intro _ hzero hne
          omega
        · rename_i hlow
          intro _ _ _ acc hacc
          rw [accounts_find?, show s.mandates.find? op.mandateId = some mandate from hmandate] at hacc
          cases hacc
          have hcaptures : Captures env settings s delivery op :=
            ⟨⟨_, _, _, payload, refs, orderId, tx, haccepted, htype, hpayload, hrefs,
              ⟨hres.truthy, hres.text, hres.unique, hres.found⟩⟩, hflight⟩
          have hroom := hfits op mandate hcaptures hmandate (not_le.mp hlow)
          show mandate.currentAggregateSpend + mandate.reservedSpend + op.amount ≤
            mandate.aggregateSpendLimit
          exact hroom

/-- **Every log is covered**, if a capture without its reservation finds room and no refund is
negative. -/
theorem step_covered (h : Step env settings s a events s') (hfits : CapturedFits env settings s a)
    (hrefund : NonnegativeRefunds env a) : eventBook.Along (Covered ownLimit) (ledger s) events := by
  cases h with
  | refused => trivial
  | requested h =>
    apply Machine.along_of_forall
    intro e he L
    cases h.decided with
    | rejected _ _ _ =>
      rcases List.mem_pair.mp he with rfl | rfl
      · trivial
      · exact fun htarget => by cases htarget
    | parked _ _ _ =>
      rcases List.mem_pair.mp he with rfl | rfl
      · trivial
      · exact fun htarget => by cases htarget
    | dispatched _ _ done hdone =>
      subst hdone
      rcases List.mem_cons.mp he with rfl | he
      · trivial
      · rcases List.mem_cons.mp he with rfl | he
        · exact fun htarget => by cases htarget
        · exact covered_of_executeGatewayOperation he
  | approved _ _ _ _ _ h =>
    apply Machine.along_of_forall
    intro e he L
    cases h with
    | rejected _ _ =>
      rw [List.mem_singleton] at he
      subst he
      exact fun htarget => by cases htarget
    | dispatched _ _ done hdone =>
      subst hdone
      rcases List.mem_cons.mp he with rfl | he
      · exact fun htarget => by cases htarget
      · exact covered_of_executeGatewayOperation he
  | verified _ _ _ _ _ _ =>
    refine ⟨?_, trivial⟩
    intro _ hzero hne
    omega
  | delivered h => exact delivered_covered h hfits hrefund
  | swept _ _ _ hevents =>
    apply Machine.along_of_forall
    intro e he L
    obtain ⟨op, -, rfl | rfl⟩ := hevents e he
    · exact fun htarget => by cases htarget
    · intro _ hzero hne
      omega
  | created _ => exact ⟨trivial, trivial⟩
  | delegated _ => exact ⟨trivial, trivial⟩
  | suspended _ => trivial
  | revoked _ => trivial
  | activated _ _ => trivial
  | agentChanged => trivial

/-- **One step and the limits.** -/
theorem withinLimits_step (h : Step env settings s a events s') (hp : PositiveAmounts s)
    (hw : WithinLimits ownLimit (ledger s))
    (hcovered : eventBook.Along (Covered ownLimit) (ledger s) events) :
    WithinLimits ownLimit (ledger s') := by
  rw [h.books]
  rcases h.ruled_or_verified with hruled | ⟨op, -, rfl⟩
  · have hres := Machine.along_mono (fun _ _ hr => reservesWithin_ownLimit hr) hruled
    exact withinLimits_log hw (positiveAmounts_iff.mp hp) hruled hres hcovered
  · exact withinLimits_enter_of_fits hw (fits_post_of_nonpos hw (by omega))

/-- In balanced books every capture finds its reservation. -/
theorem capturedFits_of_balanced {credited : String → ℤ} (hb : Balanced credited (ledger s))
    (hp : PositiveAmounts s) (a : Action) : CapturedFits env settings s a := by
  cases a with
  | webhook delivery =>
    intro op mandate hcaptures hmandate hlow
    obtain ⟨_, _, _, _, _, _, _, -, -, -, -, hres⟩ := hcaptures.accepted
    have hfind : (ledger s).holds.find? op.id = some (operationHold op) := by
      rw [holds_find?, hres.self]
      rfl
    obtain ⟨acc, hacc, hcover⟩ := covers_of_balanced hb (positiveAmounts_iff.mp hp) hfind
    rw [accounts_find?, hmandate] at hacc
    cases hacc
    exact absurd (hcover hcaptures.inFlight) (not_le.mpr hlow)
  | request _ _ _ => trivial
  | approve _ _ _ _ => trivial
  | verify _ _ => trivial
  | sweep _ => trivial
  | create _ _ _ => trivial
  | delegate _ _ _ _ => trivial
  | suspend _ _ => trivial
  | revoke _ _ => trivial
  | activate _ => trivial
  | agentStatus _ _ _ => trivial

/-- In balanced books nothing is committed without its reservation, so the bound plays no part. -/
theorem covered_of_balanced {bound bound' : String → ℤ → ℤ} {L : Books} {credited : String → ℤ}
    {e : Event} (hb : Balanced credited L) (ha : ∀ h ∈ L.holds.rows, 0 < h.amount)
    (hr : EventRule L e) (hc : Covered bound L e) : Covered bound' L e := by
  cases e with
  | issued _ => trivial
  | opened _ => trivial
  | gatewayCall _ _ => trivial
  | credited _ _ => exact hc
  | posted op target dReserved dCommitted =>
    obtain ⟨hfind, hposting⟩ := hr
    obtain ⟨acc, hacc, hcover⟩ := covers_of_balanced hb ha hfind
    have hpos : 0 < op.amount := ha _ (Table.mem_of_find? hfind)
    rw [hacc] at hposting
    rintro rfl hzero hne
    generalize op.status = source at hposting hcover
    cases hposting with
    | commit _ => omega
    | commitUnfunded _ hnone => cases hnone
    | commitUncovered hflight hacc' hlow =>
      cases hacc'
      exact absurd (hcover hflight) (not_le.mpr hlow)

/-- Mandates with nothing spent or reserved and limits that are not negative; the operations that
are stored have positive amounts. -/
structure Unspent (s : Store) : Prop where
  counters : ∀ m ∈ s.mandates.rows, m.currentAggregateSpend = 0 ∧ m.reservedSpend = 0
  limits : ∀ m ∈ s.mandates.rows, 0 ≤ m.aggregateSpendLimit
  amounts : PositiveAmounts s

/-- **Aggregate budget safety.**  From mandates with nothing spent or reserved, no run exceeds a
limit whose captured payments find their reservation or else room for the amount. -/
theorem aggregate_budget_safe (env : Platform) (settings : Settings) (s : Store)
    (actions : List Action) (hunspent : Unspent s)
    (hrefunds : ∀ a ∈ actions, NonnegativeRefunds env a)
    (hfits : (controlPlane env settings).Along (CapturedFits env settings) s actions) :
    (controlPlane env settings).Throughout WithinAggregateLimits s actions := by
  have hstep : ∀ (s : Store) (a : Action), (PositiveAmounts s ∧ WithinLimits ownLimit (ledger s)) →
      (CapturedFits env settings s a ∧ NonnegativeRefunds env a) →
        PositiveAmounts ((controlPlane env settings).next s a) ∧
          WithinLimits ownLimit (ledger ((controlPlane env settings).next s a)) := by
    rintro s a ⟨hp, hw⟩ ⟨hf, hr⟩
    have h := perform_step env settings s a
    exact ⟨positiveAmounts_step h hp, withinLimits_step h hp hw (step_covered h hf hr)⟩
  have hstart : WithinLimits ownLimit (ledger s) := by
    rw [← withinAggregateLimits_iff]
    intro m hm
    obtain ⟨hCommitted, hReserved⟩ := hunspent.counters m hm
    have hlimit := hunspent.limits m hm
    omega
  have halong := Machine.along_and hfits
    (Machine.along_of_forall fun a ha _ => hrefunds a ha)
  exact Machine.throughout_mono (fun _ h => withinAggregateLimits_iff.mpr h.2)
    (Machine.throughout_of_inv hstep ⟨hunspent.amounts, hstart⟩ halong)

/-- A captured payment reports no refund. -/
theorem nonnegativeRefunds_of_captured {body eventId orderId paymentId : String}
    (hbody : Sample.platform.jsonLoads body =
      some (Sample.capturedEvent eventId orderId paymentId)) :
    NonnegativeRefunds Sample.platform (Sample.deliver body) := by
  intro eventData payload refs hdata htype
  cases hbody.symm.trans hdata
  have hcaptured : (Sample.capturedEvent eventId orderId paymentId).get "event"
      (.str "unknown") = .ok (.str "payment.captured") := by rfl
  rw [hcaptured] at htype
  simp at htype

/-- A request, its verified payment, and a capture that finds its reservation. -/
theorem aggregate_budget_safe_capturedB :
    (controlPlane Sample.platform Sample.settings).Throughout WithinAggregateLimits Sample.store
      [Sample.requestA, Sample.verifyA, Sample.requestB, Sample.deliver Sample.capturedB] := by
  refine aggregate_budget_safe _ _ _ _ ⟨by decide, by decide, ?_⟩ ?_ ?_
  · intro op hm
    cases hm
  · intro a ha
    simp only [List.mem_cons, List.not_mem_nil, or_false] at ha
    rcases ha with rfl | rfl | rfl | rfl
    · trivial
    · trivial
    · trivial
    · exact nonnegativeRefunds_of_captured (show Sample.platform.jsonLoads Sample.capturedB =
        some (Sample.capturedEvent "evt_2" "order_B" "pay_B") by rfl)
  · refine ⟨trivial, trivial, trivial, ?_, trivial⟩
    intro op mandate hcaptures hmandate hlow
    have hmandates : ((controlPlane Sample.platform Sample.settings).run Sample.store
        [Sample.requestA, Sample.verifyA, Sample.requestB]).mandates.rows.all
          (fun m => m.reservedSpend = 400) = true := by
      decide +kernel
    have hoperations : ((controlPlane Sample.platform Sample.settings).run Sample.store
        [Sample.requestA, Sample.verifyA, Sample.requestB]).operations.rows.all
          (fun op => !op.status.inFlight || op.amount = 400) = true := by
      decide +kernel
    obtain ⟨_, _, _, _, _, _, _, -, -, -, -, hres⟩ := hcaptures.accepted
    have hreserved := List.all_eq_true.mp hmandates _ (Table.mem_of_find? hmandate)
    have hamount := List.all_eq_true.mp hoperations _ (Table.mem_of_find? hres.found)
    rw [hcaptures.inFlight] at hamount
    simp only [Bool.not_true, Bool.false_or, decide_eq_true_eq] at hreserved hamount
    omega

/-- A payment verified twice makes room for a request whose capture then finds no reservation and
is committed on top: 1600 committed and -200 reserved against a limit of 1000. -/
theorem not_withinAggregateLimits_of_second_verification :
    Unspent Sample.store ∧
      ¬ (controlPlane Sample.platform Sample.settings).Throughout WithinAggregateLimits Sample.store
        [Sample.requestA, Sample.verifyA, Sample.verifyA, Sample.requestB,
          Sample.deliver Sample.capturedB] := by
  refine ⟨⟨by decide, by decide, ?_⟩, fun h => ?_⟩
  · intro op hm
    cases hm
  · have hlast := Machine.throughout_iff.mp h _ (List.prefix_refl _)
    have hmandates : ((controlPlane Sample.platform Sample.settings).run Sample.store
        [Sample.requestA, Sample.verifyA, Sample.verifyA, Sample.requestB,
          Sample.deliver Sample.capturedB]).mandates.rows.map
            (fun m => (m.currentAggregateSpend, m.reservedSpend, m.aggregateSpendLimit)) =
        [(1600, -200, 1000)] := by
      decide +kernel
    obtain ⟨m, hm, hcounters⟩ := List.mem_map.mp
      (hmandates ▸ List.mem_singleton_self ((1600, -200, 1000) : ℤ × ℤ × ℤ))
    have hle := hlast m hm
    simp only [Prod.mk.injEq] at hcounters
    omega

end MandatePlane.LedgerConsistency

import MandatePlane.DeliveryTurns
import MandatePlane.OrderCreation
import MandatePlane.RefundCredit

/-!
# Captures that arrive while their order is created

An endpoint creates a gateway order while deliveries come in.  The gateway knows the
order before the transaction is committed, and a capture whose transaction is not found
is answered PROCESSED all the same, so that nobody sends it again.  A failure that has
read the operation in flight flushes FAILED over whatever was committed in between.

Where every capture of the order asks for its transaction after the endpoint has
answered, and no failure is flushed over a success, a capture that is answered PROCESSED
has left its operation SUCCEEDED.
-/

namespace MandatePlane.CaptureDelivery

open DomainModel KeyedTable LabelledRun LedgerView HostEnvironment RazorpayClient WebhookRoutes
open ControlPlane ReadCommitted OperationSessions DeliverySessions DeliveryTurns OrderCreation

/-- The operation has been settled as a success. -/
def Succeeded (id : String) (s : Store) : Prop :=
  ∃ row, s.operations.find? id = some row ∧ row.status = .succeeded

instance (id : String) (s : Store) : Decidable (Succeeded id s) :=
  decidable_of_iff (∃ row ∈ s.operations.find? id, row.status = .succeeded) Iff.rfl

/-- The delivery brings a capture of the order. -/
def Captures (env : Platform) (settings : Settings) (order : String) (delivery : WebhookDelivery) :
    Prop :=
  ∃ eventType paymentRef,
    eventOf env settings delivery = some (.settling (.captured eventType order paymentRef))

/-- The event is a capture of the order. -/
def IsCapture (order : String) : Option DomainEvent → Prop
  | some (.settling (.captured _ orderId _)) => orderId = order
  | _ => False

instance (order : String) (e : Option DomainEvent) : Decidable (IsCapture order e) := by
  unfold IsCapture
  split <;> infer_instance

theorem captures_iff {env : Platform} {settings : Settings} {order : String}
    {delivery : WebhookDelivery} :
    IsCapture order (eventOf env settings delivery) ↔ Captures env settings order delivery := by
  constructor
  · intro h
    unfold IsCapture at h
    split at h
    · rename_i eventType orderId paymentRef hevent
      rw [h] at hevent
      exact ⟨eventType, paymentRef, hevent⟩
    · exact absurd h id
  · rintro ⟨eventType, paymentRef, hevent⟩
    rw [hevent]
    rfl

instance (env : Platform) (settings : Settings) (order : String) (delivery : WebhookDelivery) :
    Decidable (Captures env settings order delivery) :=
  decidable_of_iff _ captures_iff

/-! ### One delivery of a capture -/

/-- Before the lookup of the transaction, or not answered PROCESSED. -/
def Unasked : DeliveryPoint → Prop
  | .receive => True
  | .record _ _ => True
  | .transaction _ _ => True
  | .fault _ _ => True
  | .raised _ => True
  | .refused _ => True
  | .finish answer none => answer.status ≠ "PROCESSED"
  | .returned answer => answer.status ≠ "PROCESSED"
  | _ => False

/-- The delivery is about to settle the operation, or has seen it settled. -/
def Tracks (id : String) (s : Store) : DeliveryPoint → Prop
  | .operation _ _ tx => tx.operationId = id
  | .mandate _ _ _ op => op.id = id
  | .budget _ _ _ op _ _ => op.id = id
  | .refundMandate _ _ _ => False
  | .refundBudget _ _ _ => False
  | .flush _ none => Succeeded id s
  | .flush _ (some settled) => settled.op.id = id
  | .finish answer none => answer.status = "PROCESSED" → Succeeded id s
  | .finish _ (some settled) => settled.op.id = id
  | .returned answer => answer.status = "PROCESSED" → Succeeded id s
  | _ => True

section Delivery

variable {env : Platform} {settings : Settings} {delivery : WebhookDelivery} {order id : String}
  {s c c' : Store} {p : DeliveryPoint} {rows : Store → List Row}
  {run : Store → Effect Store Event DeliveryPoint}

theorem tracks_of_unasked (h : Unasked p) : Tracks id c p := by
  cases p with
  | receive => trivial
  | record _ _ => trivial
  | transaction _ _ => trivial
  | fault _ _ => trivial
  | raised _ => trivial
  | refused _ => trivial
  | returned answer => exact fun hprocessed => absurd hprocessed h
  | finish answer settled =>
    cases settled with
    | none => exact fun hprocessed => absurd hprocessed h
    | some settled => exact absurd h fun h => h
  | operation _ _ _ => exact absurd h fun h => h
  | mandate _ _ _ _ => exact absurd h fun h => h
  | budget _ _ _ _ _ _ => exact absurd h fun h => h
  | refundMandate _ _ _ => exact absurd h fun h => h
  | refundBudget _ _ _ => exact absurd h fun h => h
  | flush _ _ => exact absurd h fun h => h

theorem Tracks.mono (hc : Succeeded id c → Succeeded id c') (h : Tracks id c p) :
    Tracks id c' p := by
  cases p with
  | flush r settled =>
    cases settled with
    | none => exact hc h
    | some settled => exact h
  | finish answer settled =>
    cases settled with
    | none => exact fun hprocessed => hc (h hprocessed)
    | some settled => exact h
  | returned answer => exact fun hprocessed => hc (h hprocessed)
  | operation _ _ _ => exact h
  | mandate _ _ _ _ => exact h
  | budget _ _ _ _ _ _ => exact h
  | refundMandate _ _ _ => exact h
  | refundBudget _ _ _ => exact h
  | receive => trivial
  | record _ _ => trivial
  | transaction _ _ => trivial
  | fault _ _ => trivial
  | raised _ => trivial
  | refused _ => trivial

/-- The record of a capture is followed by the lookup of its transaction. -/
theorem startEvent_captures {body : DeliveryBody} (hbody : readBody env settings delivery = .ok body)
    (hcaptures : Captures env settings order delivery) (r : WebhookEvent) :
    ∃ e, startEvent env body r = .transaction r e := by
  obtain ⟨eventType, paymentRef, hevent⟩ := hcaptures
  simp only [eventOf, hbody] at hevent
  unfold startEvent
  cases hquery : domainQuery env body.eventType body.eventData with
  | error fault =>
    rw [hquery] at hevent
    cases hevent
  | ok found =>
    rw [hquery] at hevent
    subst hevent
    exact ⟨_, rfl⟩

/-- A capture that has not asked for its transaction goes on without one. -/
theorem unasked_ran (hcaptures : Captures env settings order delivery)
    (hfollows : Follows env settings delivery p)
    (hcode : deliveryCode env settings delivery p = .exec rows run)
    (hp : Unasked p) (hask : ∀ r e, p ≠ .transaction r e) : Unasked (run s).next := by
  cases p with
  | receive =>
    cases hcode
    dsimp only
    split
    · trivial
    · split
      · exact (by decide : "DUPLICATE_IGNORED" ≠ "PROCESSED")
      · trivial
  | record body existing =>
    cases existing with
    | some existing =>
      cases hcode
      obtain ⟨e, hstart⟩ := startEvent_captures hfollows hcaptures (Record.retried existing)
      rw [hstart]
      trivial
    | none =>
      simp only [deliveryCode] at hcode
      split at hcode
      · cases hcode
      · rename_i eventType _
        cases hcode
        dsimp only
        split
        · trivial
        · obtain ⟨e, hstart⟩ := startEvent_captures hfollows hcaptures
            (newRecord env delivery body.eventId eventType body.eventData)
          rw [hstart]
          trivial
  | transaction r e => exact absurd rfl (hask r e)
  | fault r text =>
    cases hcode
    exact RefundCredit.faulted_not_processed text r
  | raised _ => cases hcode
  | refused _ => cases hcode
  | returned _ => cases hcode
  | finish _ _ => cases hcode
  | operation _ _ _ => exact absurd hp fun h => h
  | mandate _ _ _ _ => exact absurd hp fun h => h
  | budget _ _ _ _ _ _ => exact absurd hp fun h => h
  | refundMandate _ _ _ => exact absurd hp fun h => h
  | refundBudget _ _ _ => exact absurd hp fun h => h
  | flush _ _ => exact absurd hp fun h => h

/-- A statement of a capture whose order has its transaction. -/
theorem tracks_ran (hcaptures : Captures env settings order delivery)
    (hfollows : Follows env settings delivery p)
    (hcode : deliveryCode env settings delivery p = .exec rows run)
    (horder : HasOrder order id s) (hseen : Succeeded id s → Succeeded id c)
    (hp : Tracks id c p) : Tracks id c (run s).next := by
  by_cases hunasked : Unasked p ∧ ∀ r e, p ≠ .transaction r e
  · exact tracks_of_unasked (unasked_ran hcaptures hfollows hcode hunasked.1 hunasked.2)
  obtain ⟨eventType, paymentRef, hevent⟩ := hcaptures
  cases p with
  | transaction r e =>
    have he : e = .settling (.captured eventType order paymentRef) :=
      Option.some.inj (hfollows.symm.trans hevent)
    obtain ⟨tx, hrows, htx⟩ := horder.rows
    have hone : oneOrNone (e.rows s) = .ok (some tx) := by
      rw [he]
      show oneOrNone (s.transactionsByOrder order) = _
      rw [hrows]
      rfl
    cases hcode
    simp only [hone]
    exact htx
  | operation r e tx =>
    have he : e = .settling (.captured eventType order paymentRef) :=
      Option.some.inj (hfollows.symm.trans hevent)
    obtain ⟨op, hop⟩ := horder.stored
    have hfind : s.operations.find? tx.operationId = some op := by
      rw [show tx.operationId = id from hp]
      exact hop
    subst he
    cases hcode
    simp only [hfind, judge]
    split
    · rename_i hstatus
      exact hseen ⟨op, hop, hstatus⟩
    · split
      · trivial
      · exact Table.key_of_find? hop
  | mandate r e tx op =>
    cases hcode
    dsimp only
    split
    · exact hp
    · unfold weigh
      dsimp only
      split <;> exact hp
  | budget r e tx op mandateId covered =>
    cases hcode
    exact hp
  | flush r settled =>
    cases settled with
    | none =>
      cases hcode
      exact fun _ => hp
    | some settled =>
      simp only [deliveryCode, settleStatement] at hcode
      split at hcode
      · cases hcode
      · cases hcode
        exact hp
  | refundMandate _ _ _ => exact absurd hp fun h => h
  | refundBudget _ _ _ => exact absurd hp fun h => h
  | receive => exact absurd ⟨trivial, fun _ _ h => by cases h⟩ hunasked
  | record _ _ => exact absurd ⟨trivial, fun _ _ h => by cases h⟩ hunasked
  | fault _ _ => exact absurd ⟨trivial, fun _ _ h => by cases h⟩ hunasked
  | finish _ _ => cases hcode
  | returned _ => cases hcode
  | raised _ => cases hcode
  | refused _ => cases hcode

end Delivery

/-! ### The sessions -/

/-- A point of the endpoint or of a delivery. -/
inductive Place where
  | creator (p : CreatorPoint)
  | delivery (p : DeliveryPoint)

section Sessions

variable {ι : Type*}

/-- One endpoint and any number of deliveries. -/
def sessionCode (env : Platform) (settings : Settings) (creator : Creator)
    (deliveries : ι → WebhookDelivery) : Option ι → Place → Stmt Store Row Event Place
  | none, .creator p => (creatorCode env settings creator p).map .creator
  | some i, .delivery p => (deliveryCode env settings (deliveries i) p).map .delivery
  | none, .delivery _ => .stop
  | some _, .creator _ => .stop

def sessionStart (creator : Creator) : Option ι → Place
  | none => .creator creator.start
  | some _ => .delivery .receive

/-- The endpoint has answered. -/
def Answered (w : World (Option ι) Row Store Place) : Prop :=
  match (w.session none).point with
  | .creator p => Finished p
  | .delivery _ => False

instance (w : World (Option ι) Row Store Place) : Decidable (Answered w) := by
  unfold Answered
  split <;> infer_instance

/-- The endpoint has had the gateway create the order for the operation. -/
def Created (gateway : GatewayAnswers) (order : String) (trace : List (Option ι × Event))
    (op : FinancialOperation) : Prop :=
  ∃ call, (none, .gatewayCall op call) ∈ trace ∧ CreatesAt gateway order call

/-- **No capture is lost.**  Once the endpoint has answered, the operation of the order it created
is SUCCEEDED if a capture of that order was answered PROCESSED. -/
def CaptureKept (env : Platform) (settings : Settings) (creator : Creator)
    (deliveries : ι → WebhookDelivery) (order : String) (trace : List (Option ι × Event))
    (w : World (Option ι) Row Store Place) : Prop :=
  ∀ op, Created creator.gateway order trace op → Answered w →
    ∀ i answer, Captures env settings order (deliveries i) →
      (w.session (some i)).point = .delivery (.returned answer) → answer.status = "PROCESSED" →
        Succeeded op.id w.committed

/-- A capture of the order is about to ask for its transaction. -/
def Asks (order : String) : Place → Prop
  | .delivery (.transaction _ (.settling (.captured _ orderId _))) => orderId = order
  | _ => False

instance (order : String) (p : Place) : Decidable (Asks order p) := by
  unfold Asks
  split <;> infer_instance

/-- The operation a failure is about to be flushed to. -/
def failing : Place → Option String
  | .delivery (.flush _ (some ⟨.failed _ _ _, _, op, _, _⟩)) => some op.id
  | _ => none

/-- A capture of the order asks for its transaction only after the endpoint has answered, and a
failure is not flushed to the order's operation once that has succeeded. -/
def InOrder (order : String) (w : World (Option ι) Row Store Place) (i : Option ι) : Prop :=
  (Asks order (w.session i).point → Answered w) ∧
    ∀ id, failing (w.session i).point = some id →
      ∀ tx ∈ w.committed.transactionsByOrder order, tx.operationId = id →
        ¬ Succeeded id w.committed

instance (order : String) (w : World (Option ι) Row Store Place) (i : Option ι) :
    Decidable (InOrder order w i) :=
  decidable_of_iff
    ((Asks order (w.session i).point → Answered w) ∧
      ∀ id ∈ failing (w.session i).point,
        ∀ tx ∈ w.committed.transactionsByOrder order, tx.operationId = id →
          ¬ Succeeded id w.committed)
    Iff.rfl

/-! ### What the sessions hold -/

section Definitions

variable (env : Platform) (settings : Settings) (creator : Creator)
  (deliveries : ι → WebhookDelivery) (order : String) (s₀ : Store)
  (w : World (Option ι) Row Store Place) (trace : List (Option ι × Event))

/-- Nothing has been requested since, and the order does not exist. -/
def Base (s : Store) : Prop := orders s = orders s₀ ∧ OrderFree order s

/-- The endpoint has the operation's row. -/
structure Carries (id : String) : Prop where
  lock : w.owner (.operation id) = some none
  writes : ∀ s, Base order s₀ s →
    links ((w.session none).writes s) = links s ∧ Stored id ((w.session none).writes s)

/-- How far the endpoint has got, with the calls it has made and the row it holds. -/
inductive Phase : Progress → Prop
  | early (hcalls : ∀ op call, (none, .gatewayCall op call) ∉ trace)
      (hkeeps : Keeps (w.session none).writes) : Phase .early
  | holding {id : String} (hcalls : ∀ op call, (none, .gatewayCall op call) ∉ trace)
      (hcarries : Carries order s₀ w id) : Phase (.holding id)
  | called {op : FinancialOperation} {payload : JsonValue.Dict}
      (hcalls : ∀ op' call, (none, .gatewayCall op' call) ∈ trace →
        op' = op ∧ call ∈ (OperationRoutes.attemptGateway env creator.gateway op payload).1)
      (hcarries : Carries order s₀ w op.id) : Phase (.called op payload)
  | ready (hready : ∀ op, Created creator.gateway order trace op →
      w.owner (.operation op.id) = some none ∧
        ∀ s, Base order s₀ s → HasOrder order op.id ((w.session none).writes s)) : Phase .ready
  | closed
      (horder : ∀ op, Created creator.gateway order trace op → HasOrder order op.id w.committed) :
      Phase .closed

/-- The endpoint's session. -/
structure CreatorHeld (p : CreatorPoint) : Prop where
  point : (w.session none).point = .creator p
  proper : Proper s₀ p
  phase : Phase env creator order s₀ w trace (progress creator p)
  base : progress creator p ≠ .closed → Base order s₀ w.committed

/-- A delivery's session. -/
structure DeliveryHeld (i : ι) (p : DeliveryPoint) : Prop where
  point : (w.session (some i)).point = .delivery p
  follows : Follows env settings (deliveries i) p
  writes : Writes p (w.session (some i)).writes
  lock : ∀ id target, posts id p = some target → w.owner (.operation id) = some (some i)
  unasked : Captures env settings order (deliveries i) → ¬ Answered w → Unasked p
  tracks : Captures env settings order (deliveries i) → Answered w →
    ∀ op, Created creator.gateway order trace op → Tracks op.id w.committed p
  failed : Answered w → ∀ op, Created creator.gateway order trace op →
    posts op.id p = some .failed → ¬ Succeeded op.id w.committed

/-- All of them. -/
structure Inv : Prop where
  endpoint : ∃ p, CreatorHeld env creator order s₀ w trace p
  sessions : ∀ i, ∃ p, DeliveryHeld env settings creator deliveries order w trace i p

end Definitions

section Steps

variable [DecidableEq ι] {env : Platform} {settings : Settings} {creator : Creator}
  {deliveries : ι → WebhookDelivery} {order : String} {s₀ : Store}
  {w w' : World (Option ι) Row Store Place} {trace trace' labels : List (Option ι × Event)} {i : ι}

/-! ### A turn of the endpoint -/

theorem settlementEvents_quiet (op : FinancialOperation)
    (attempt : Except String OperationRoutes.Dispatched) : Quiet (settlementEvents op attempt) := by
  intro op' call hm
  rcases attempt with _ | _ | _ | _ <;> simp [settlementEvents] at hm

/-- The gateway execution of the call that created the order. -/
theorem hasOrder_executed {gateway : GatewayAnswers} {mandate : Mandate} {op : FinancialOperation}
    {payload : JsonValue.Dict} {tx : Transaction} {s : Store}
    (hattempt : (OperationRoutes.attemptGateway env gateway op payload).2 = .ok (.executing tx))
    (hlink : linkOf tx = (op.id, some order)) (hfree : OrderFree order s) (hs : Stored op.id s) :
    HasOrder order op.id
      (OperationRoutes.executeGatewayOperation env gateway mandate op payload s).store := by
  have horders := HandlerPostings.executeGatewayOperation_orders env gateway mandate op payload s
  have hlinks : links (OperationRoutes.executeGatewayOperation env gateway mandate op payload
      s).store = links s ++ [linkOf tx] := by
    simp only [OperationRoutes.executeGatewayOperation, hattempt]
    exact List.map_append
  refine ⟨?_, stored_of_orders horders hs⟩
  have hnone : (links s).filter (fun link => link.2 = some order) = [] := by
    rw [List.filter_eq_nil_iff]
    intro link hm hsame
    exact hfree link hm (of_decide_eq_true hsame)
  rw [hlinks, hlink, List.filter_append, hnone]
  simp

omit [DecidableEq ι] in
theorem mem_append_quiet {events : List Event} (hquiet : Quiet events) {j : Option ι}
    {op : FinancialOperation} {call : GatewayCall}
    (h : (none, .gatewayCall op call) ∈ trace ++ events.map fun e => (j, e)) :
    (none, .gatewayCall op call) ∈ trace := by
  rcases List.mem_append.mp h with h | h
  · exact h
  · obtain ⟨e, he, hsame⟩ := List.mem_map.mp h
    have hcall : e = .gatewayCall op call := congrArg Prod.snd hsame
    rw [hcall] at he
    exact absurd he (hquiet op call)

/-- **A statement of the endpoint.**  Where it is answered afterwards, it has created no order. -/
theorem phase_advance {from' next : Progress} {rows : List Row} {write : Store → Store}
    {events : List Event} {q : Place} (h : Phase env creator order s₀ w trace from')
    (hfree : ∀ k ∈ rows, w.Available none k)
    (ha : Advance env creator.gateway s₀ rows from' write events next) :
    Phase env creator order s₀ (w.advance none rows ⟨write, events, q⟩)
        (trace ++ events.map fun l => (none, l)) next ∧
      (next = .early ∨ next = .closed →
        ∀ op, ¬ Created creator.gateway order (trace ++ events.map fun l => (none, l)) op) := by
  have hwrites : ((w.advance none rows ⟨write, events, q⟩).session none).writes =
      write ∘ (w.session none).writes := by rw [advance_session_self]
  have hkept {k : Row} (hk : w.owner k = some none) :
      (w.advance none rows ⟨write, events, q⟩).owner k = some none :=
    advance_owner_kept hk hfree
  have hquiet (hcalls : ∀ op call, (none, .gatewayCall op call) ∉ trace) (hquiet : Quiet events) :
      ∀ op call, (none, .gatewayCall op call) ∉ trace ++ events.map fun l => (none, l) :=
    fun op call hm => hcalls op call (mem_append_quiet hquiet hm)
  have huncreated {trace : List (Option ι × Event)}
      (hcalls : ∀ op call, (none, .gatewayCall op call) ∉ trace) :
      ∀ op, ¬ Created creator.gateway order trace op := fun op ⟨call, hm, _⟩ => hcalls op call hm
  cases ha with
  | onward hkeeps hno hnext =>
    cases h with
    | early hcalls hkeepsBefore =>
      have hnone := hquiet hcalls hno
      refine ⟨?_, fun _ => huncreated hnone⟩
      rcases hnext with rfl | rfl
      · exact .early hnone (by rw [hwrites]; exact hkeepsBefore.comp hkeeps)
      · exact .ready fun op hcreated => absurd hcreated (huncreated hnone op)
  | answered =>
    cases h with
    | early hcalls _ =>
      have hnone := hquiet hcalls quiet_nil
      exact ⟨.closed fun op hcreated => absurd hcreated (huncreated hnone op),
        fun _ => huncreated hnone⟩
  | held hlock hwrite =>
    cases h with
    | early hcalls hkeeps =>
      have hnone := hquiet hcalls quiet_nil
      refine ⟨.holding hnone ⟨if_pos hlock, fun s hs => ?_⟩, fun hend => ?_⟩
      · obtain ⟨horders, hlinks⟩ := hkeeps s
        obtain ⟨hlinks', hstored⟩ := hwrite _ (horders.trans hs.1)
        rw [hwrites]
        exact ⟨hlinks'.trans hlinks, hstored⟩
      · rcases hend with hend | hend <;> cases hend
  | worked hkeeps hno hnext =>
    cases h with
    | holding hcalls hcarries =>
      have hnone := hquiet hcalls hno
      refine ⟨?_, fun _ => huncreated hnone⟩
      rcases hnext with rfl | rfl
      · refine .holding hnone ⟨hkept hcarries.lock, fun s hs => ?_⟩
        obtain ⟨hlinks, hstored⟩ := hcarries.writes s hs
        obtain ⟨horders', hlinks'⟩ := hkeeps ((w.session none).writes s)
        rw [hwrites]
        exact ⟨hlinks'.trans hlinks, stored_of_orders horders' hstored⟩
      · exact .ready fun op hcreated => absurd hcreated (huncreated hnone op)
  | @called op payload =>
    cases h with
    | holding hcalls hcarries =>
      refine ⟨.called (fun op' call hm => ?_) ⟨hkept hcarries.lock, fun s hs => ?_⟩, fun hend => ?_⟩
      · rcases List.mem_append.mp hm with hm | hm
        · exact absurd hm (hcalls op' call)
        · obtain ⟨e, he, hsame⟩ := List.mem_map.mp hm
          obtain ⟨call', hcall', rfl⟩ := List.mem_map.mp he
          cases congrArg Prod.snd hsame
          exact ⟨rfl, hcall'⟩
      · rw [hwrites]
        exact hcarries.writes s hs
      · rcases hend with hend | hend <;> cases hend
  | @executed mandate op payload =>
    cases h with
    | called hcalls hcarries =>
      refine ⟨.ready fun op' hcreated => ?_, fun hend => ?_⟩
      · obtain ⟨call, hm, hcreates⟩ := hcreated
        obtain ⟨rfl, hcall⟩ := hcalls op' call (mem_append_quiet (settlementEvents_quiet _ _) hm)
        obtain ⟨tx, hattempt, hlink⟩ := attemptGateway_creates hcall hcreates
        refine ⟨hkept hcarries.lock, fun s hs => ?_⟩
        obtain ⟨hlinks, hstored⟩ := hcarries.writes s hs
        rw [hwrites]
        refine hasOrder_executed hattempt hlink (fun link hm => ?_) hstored
        rw [hlinks] at hm
        exact hs.2 link hm
      · rcases hend with hend | hend <;> cases hend

omit [DecidableEq ι] in
/-- The endpoint's part does not depend on what the deliveries do. -/
theorem phase_kept {progress : Progress} (h : Phase env creator order s₀ w trace progress)
    (hsession : w'.session none = w.session none)
    (howner : ∀ k, w.owner k = some none → w'.owner k = some none)
    (horder : ∀ id, HasOrder order id w.committed → HasOrder order id w'.committed)
    (htrace : ∀ op call, (none, .gatewayCall op call) ∈ trace' → (none, .gatewayCall op call) ∈ trace) :
    Phase env creator order s₀ w' trace' progress := by
  have hcreated {op : FinancialOperation} : Created creator.gateway order trace' op →
      Created creator.gateway order trace op := fun ⟨call, hm, hc⟩ => ⟨call, htrace op call hm, hc⟩
  have hcarries {id : String} (hc : Carries order s₀ w id) : Carries order s₀ w' id :=
    ⟨howner _ hc.lock, by rw [hsession]; exact hc.writes⟩
  cases h with
  | early hcalls hkeeps =>
    exact .early (fun op call hm => hcalls op call (htrace op call hm)) (by rw [hsession]; exact hkeeps)
  | holding hcalls hc =>
    exact .holding (fun op call hm => hcalls op call (htrace op call hm)) (hcarries hc)
  | called hcalls hc =>
    exact .called (fun op call hm => hcalls op call (htrace op call hm)) (hcarries hc)
  | ready hready =>
    refine .ready fun op hc => ?_
    obtain ⟨hlock, hwrites⟩ := hready op (hcreated hc)
    exact ⟨howner _ hlock, by rw [hsession]; exact hwrites⟩
  | closed hclosed => exact .closed fun op hc => horder op.id (hclosed op (hcreated hc))

omit [DecidableEq ι] in
/-- A delivery's part, while another session takes its turn. -/
theorem delivery_kept {p : DeliveryPoint}
    (h : DeliveryHeld env settings creator deliveries order w trace i p)
    (hsession : w'.session (some i) = w.session (some i))
    (howner : ∀ k, w.owner k = some (some i) → w'.owner k = some (some i))
    (hanswered : Answered w → Answered w')
    (htracks : Answered w → ∀ op, Created creator.gateway order trace' op →
      Created creator.gateway order trace op ∧
        (Succeeded op.id w.committed → Succeeded op.id w'.committed))
    (hfailed : Answered w' → ∀ op, Created creator.gateway order trace' op →
      posts op.id p = some .failed → ¬ Succeeded op.id w'.committed) :
    DeliveryHeld env settings creator deliveries order w' trace' i p := by
  refine ⟨?_, h.follows, ?_, fun id target hp => howner _ (h.lock id target hp), fun hc hnot => ?_,
    fun hc _ op hcreated => ?_, hfailed⟩
  · rw [hsession]
    exact h.point
  · rw [hsession]
    exact h.writes
  · exact h.unasked hc fun ha => hnot (hanswered ha)
  · by_cases ha : Answered w
    · obtain ⟨hcreated', hmono⟩ := htracks ha op hcreated
      exact (h.tracks hc ha op hcreated').mono hmono
    · exact tracks_of_unasked (h.unasked hc ha)

omit [DecidableEq ι] in
/-- A delivery that has written nothing and has not asked for its transaction. -/
theorem delivery_fresh {p : DeliveryPoint} (hsession : w.session (some i) = ⟨.delivery p, id⟩)
    (hfollows : Follows env settings (deliveries i) p) (hunasked : Unasked p)
    (hposts : ∀ id, posts id p = none) :
    DeliveryHeld env settings creator deliveries order w trace i p := by
  have hnone {id : String} {target : OperationStatus} : posts id p ≠ some target := by
    rw [hposts id]
    exact (Option.some_ne_none target).symm
  refine ⟨by rw [hsession], hfollows, ?_, fun id target hflushed => absurd hflushed hnone,
    fun _ _ => hunasked, fun _ _ _ _ => tracks_of_unasked hunasked,
    fun _ op _ hflushed => absurd hflushed hnone⟩
  rw [hsession]
  exact writes_id hposts

omit [DecidableEq ι] in
theorem answered_iff {p : CreatorPoint} (h : (w.session none).point = .creator p) :
    Answered w ↔ Finished p := by
  unfold Answered
  rw [h]

omit [DecidableEq ι] in
/-- Where no order has been created there is nothing to show. -/
theorem uncreated_of_early (h : Phase env creator order s₀ w trace .early) (op : FinancialOperation) :
    ¬ Created creator.gateway order trace op := by
  cases h with
  | early hcalls _ => exact fun ⟨call, hm, _⟩ => hcalls op call hm

theorem advance_open {gateway : GatewayAnswers} {rows : List Row} {from' next : Progress}
    {write : Store → Store} {events : List Event}
    (h : Advance env gateway s₀ rows from' write events next) : from' ≠ .closed := by
  cases h <;> exact nofun

/-- A statement of the endpoint. -/
theorem inv_creator_ran (h : Inv env settings creator deliveries order s₀ w trace)
    {rows : Store → List Row} {run : Store → Effect Store Event Place}
    (hcode : sessionCode env settings creator deliveries none (w.session none).point =
      .exec rows run)
    (hfree : ∀ k ∈ rows (w.view none), w.Available none k) :
    Inv env settings creator deliveries order s₀
      (w.advance none (rows (w.view none)) (run (w.view none)))
      (trace ++ (run (w.view none)).emits.map fun e => (none, e)) := by
  obtain ⟨p, hp⟩ := h.endpoint
  rw [hp.point] at hcode
  obtain ⟨run', hcode', rfl⟩ := Stmt.map_eq_exec hcode
  have hnot : ¬ Answered w := by
    rw [answered_iff hp.point]
    intro hfinished
    rw [creatorCode_finished hfinished] at hcode'
    cases hcode'
  have hbase : progress creator p = .early → orders (w.view none) = orders s₀ := by
    intro hearly
    have hphase := hp.phase
    rw [hearly] at hphase
    cases hphase with
    | early _ hkeeps =>
      exact (hkeeps w.committed).1.trans (hp.base (by rw [hearly]; exact nofun)).1
  obtain ⟨hadvance, hproper⟩ := creator_ran hbase hp.proper hcode'
  obtain ⟨hphase, hnone⟩ := phase_advance (q := .creator (run' (w.view none)).next) hp.phase hfree
    hadvance
  refine ⟨⟨(run' (w.view none)).next, ?_, hproper, hphase, fun _ => ?_⟩, fun i => ?_⟩
  · rw [advance_session_self]
    rfl
  · exact hp.base (advance_open hadvance)
  · obtain ⟨q, hq⟩ := h.sessions i
    refine ⟨q, delivery_kept hq ?_ ?_ ?_ ?_ ?_⟩
    · exact advance_session_of_ne (Option.some_ne_none i) _ _
    · exact fun k hk => advance_owner_kept hk hfree
    · exact fun ha => absurd ha hnot
    · exact fun ha => absurd ha hnot
    · intro ha op hcreated
      have hpoint : ((w.advance none (rows (w.view none))
          ((run' (w.view none)).map Place.creator)).session none).point =
            .creator (run' (w.view none)).next := by
        rw [advance_session_self]
        rfl
      rw [answered_iff hpoint] at ha
      exact absurd hcreated (hnone (progress_finished ha).symm op)

/-- The commit of the endpoint: whoever has flushed a status to the order's operation would hold
the row that the endpoint holds. -/
theorem inv_creator_committed (h : Inv env settings creator deliveries order s₀ w trace)
    {next : Place}
    (hcode : sessionCode env settings creator deliveries none (w.session none).point =
      .commit next) :
    Inv env settings creator deliveries order s₀ (w.publish none next) trace := by
  obtain ⟨p, hp⟩ := h.endpoint
  rw [hp.point] at hcode
  obtain ⟨q, hcode', rfl⟩ := Stmt.map_eq_commit hcode
  obtain ⟨hready, hclosed, hopen, hproper⟩ := @creatorCode_commit _ _ s₀ _ _ _ hcode'
  have hphase := hp.phase
  rw [hready] at hphase
  have hready' : ∀ op, Created creator.gateway order trace op →
      w.owner (.operation op.id) = some none ∧
        ∀ s, Base order s₀ s → HasOrder order op.id ((w.session none).writes s) := by
    cases hphase with
    | ready hready => exact hready
  have hnot : ¬ Answered w := by
    rw [answered_iff hp.point]
    exact hopen
  have hbase : Base order s₀ w.committed := hp.base (by rw [hready]; exact nofun)
  refine ⟨⟨q, ?_, hproper, ?_, fun hne => absurd hclosed hne⟩, fun i => ?_⟩
  · rw [publish_session_self]
  · rw [hclosed]
    exact .closed fun op hcreated => (hready' op hcreated).2 w.committed hbase
  · obtain ⟨p', hp'⟩ := h.sessions i
    refine ⟨p', delivery_kept hp' ?_ ?_ ?_ ?_ ?_⟩
    · exact publish_session_of_ne (Option.some_ne_none i) _
    · exact fun k hk => release_of_ne hk (Option.some_ne_none i)
    · exact fun ha => absurd ha hnot
    · exact fun ha => absurd ha hnot
    · intro _ op hcreated hposts
      have hown := hp'.lock op.id .failed hposts
      rw [(hready' op hcreated).1] at hown
      cases hown

/-- The endpoint is refused. -/
theorem inv_creator_rolledBack (h : Inv env settings creator deliveries order s₀ w trace)
    {next : Place}
    (hcode : sessionCode env settings creator deliveries none (w.session none).point =
      .rollback next) :
    Inv env settings creator deliveries order s₀ (w.discard none next) trace := by
  obtain ⟨p, hp⟩ := h.endpoint
  rw [hp.point] at hcode
  obtain ⟨q, hcode', rfl⟩ := Stmt.map_eq_rollback hcode
  obtain ⟨hprogress, hearly, hopen, hproper⟩ := @creatorCode_rollback _ _ s₀ _ _ _ hcode'
  have hnot : ¬ Answered w := by
    rw [answered_iff hp.point]
    exact hopen
  have hcalls : ∀ op call, (none, .gatewayCall op call) ∉ trace := by
    have hphase := hp.phase
    rcases hprogress with hprogress | ⟨id, hprogress⟩
    · rw [hprogress] at hphase
      cases hphase with
      | early hcalls _ => exact hcalls
    · rw [hprogress] at hphase
      cases hphase with
      | holding hcalls _ => exact hcalls
  have hphase : Phase env creator order s₀ (w.discard none (Place.creator q)) trace .early := by
    refine .early hcalls ?_
    rw [discard_session_self]
    exact keeps_id
  refine ⟨⟨q, ?_, hproper, ?_, fun _ => ?_⟩, fun i => ?_⟩
  · rw [discard_session_self]
  · rw [hearly]
    exact hphase
  · refine hp.base ?_
    rcases hprogress with hprogress | ⟨id, hprogress⟩
    · rw [hprogress]
      exact nofun
    · rw [hprogress]
      exact nofun
  · obtain ⟨p', hp'⟩ := h.sessions i
    refine ⟨p', delivery_kept hp' ?_ ?_ ?_ ?_ ?_⟩
    · exact discard_session_of_ne (Option.some_ne_none i) _
    · exact fun k hk => release_of_ne hk (Option.some_ne_none i)
    · exact fun ha => absurd ha hnot
    · exact fun ha => absurd ha hnot
    · exact fun _ op hcreated => absurd hcreated (uncreated_of_early hphase op)

/-! ### A turn of a delivery -/

omit [DecidableEq ι] in
/-- Once the endpoint has answered, the order it created has its transaction. -/
theorem Inv.hasOrder (h : Inv env settings creator deliveries order s₀ w trace) (ha : Answered w)
    {op : FinancialOperation} (hcreated : Created creator.gateway order trace op) :
    HasOrder order op.id w.committed := by
  obtain ⟨p, hp⟩ := h.endpoint
  have hphase := hp.phase
  rw [answered_iff hp.point] at ha
  rcases @progress_finished creator _ ha with hprogress | hprogress
  · rw [hprogress] at hphase
    cases hphase with
    | closed horder => exact horder op hcreated
  · rw [hprogress] at hphase
    exact absurd hcreated (uncreated_of_early hphase op)

omit [DecidableEq ι] in
theorem mem_own {events : List Event} {op : FinancialOperation} {call : GatewayCall}
    (h : (none, .gatewayCall op call) ∈ trace ++ events.map fun e => (some i, e)) :
    (none, .gatewayCall op call) ∈ trace := by
  rcases List.mem_append.mp h with h | h
  · exact h
  · obtain ⟨e, -, hsame⟩ := List.mem_map.mp h
    cases congrArg Prod.fst hsame

omit [DecidableEq ι] in
/-- The endpoint, while a delivery takes its turn. -/
theorem creator_kept {p : CreatorPoint} (h : CreatorHeld env creator order s₀ w trace p)
    (hsession : w'.session none = w.session none)
    (howner : ∀ k, w.owner k = some none → w'.owner k = some none)
    {f : Store → Store} (hf : Keeps f) (hcommitted : w'.committed = f w.committed)
    (htrace : ∀ op call, (none, .gatewayCall op call) ∈ trace' →
      (none, .gatewayCall op call) ∈ trace) :
    CreatorHeld env creator order s₀ w' trace' p := by
  refine ⟨?_, h.proper, phase_kept h.phase hsession howner (fun id hid => ?_) htrace, fun hopen => ?_⟩
  · rw [hsession]
    exact h.point
  · rw [hcommitted]
    exact hasOrder_of_keeps hf hid
  · obtain ⟨horders, hfree⟩ := h.base hopen
    obtain ⟨horders', hlinks⟩ := hf w.committed
    rw [hcommitted]
    refine ⟨horders'.trans horders, fun link hm => ?_⟩
    rw [hlinks] at hm
    exact hfree link hm

/-- Whether an operation has succeeded, after the writes of a delivery. -/
theorem succeeded_writes {p : DeliveryPoint} {f : Store → Store} (hf : Writes p f) {id : String}
    {s : Store} : Succeeded id (f s) ↔
      ∃ row, s.operations.find? id = some row ∧ (posts id p).getD row.status = .succeeded := by
  have hstatus := hf.status s id
  constructor
  · rintro ⟨row', hrow', hsucceeded⟩
    rw [hrow'] at hstatus
    obtain ⟨row, hrow, hsame⟩ := Option.map_eq_some_iff.mp hstatus.symm
    exact ⟨row, hrow, hsame.trans hsucceeded⟩
  · rintro ⟨row, hrow, hsucceeded⟩
    obtain ⟨row', hrow', hsame, -⟩ := hf.stored hrow
    exact ⟨row', hrow', hsame.trans hsucceeded⟩

theorem succeeded_aside {p : DeliveryPoint} {f : Store → Store} (hf : Writes p f) {id : String}
    (hposts : posts id p = none) {s : Store} : Succeeded id (f s) ↔ Succeeded id s := by
  rw [succeeded_writes hf, hposts]
  rfl

theorem target_cases {id : String} {p : DeliveryPoint} {target : OperationStatus}
    (h : posts id p = some target) : target = .succeeded ∨ target = .failed := by
  unfold posts at h
  split at h
  · split at h
    · rename_i settled _
      rw [← Option.some.inj h]
      cases settled.event with
      | captured _ _ _ => exact .inl rfl
      | failed _ _ _ => exact .inr rfl
    · cases h
  · cases h

/-- A statement of a delivery. -/
theorem inv_delivery_ran (h : Inv env settings creator deliveries order s₀ w trace)
    (hclear : InOrder order w (some i)) {rows : Store → List Row}
    {run : Store → Effect Store Event Place}
    (hcode : sessionCode env settings creator deliveries (some i) (w.session (some i)).point =
      .exec rows run)
    (hfree : ∀ k ∈ rows (w.view (some i)), w.Available (some i) k) :
    Inv env settings creator deliveries order s₀
      (w.advance (some i) (rows (w.view (some i))) (run (w.view (some i))))
      (trace ++ (run (w.view (some i))).emits.map fun e => (some i, e)) := by
  obtain ⟨p, hp⟩ := h.sessions i
  rw [hp.point] at hcode
  obtain ⟨run', hcode', rfl⟩ := Stmt.map_eq_exec hcode
  have hposts := posts_of_exec hcode'
  have hnone : (w.advance (some i) (rows (w.view (some i)))
      ((run' (w.view (some i))).map Place.delivery)).session none = w.session none :=
    advance_session_of_ne (Option.some_ne_none i).symm _ _
  have hanswered : Answered (w.advance (some i) (rows (w.view (some i)))
      ((run' (w.view (some i))).map Place.delivery)) ↔ Answered w := by
    unfold Answered
    rw [hnone]
  have hcreated {op : FinancialOperation} {events : List Event} :
      Created creator.gateway order (trace ++ events.map fun e => (some i, e)) op →
        Created creator.gateway order trace op := fun ⟨call, hm, hc⟩ => ⟨call, mem_own hm, hc⟩
  refine ⟨?_, fun k => ?_⟩
  · obtain ⟨q, hq⟩ := h.endpoint
    exact ⟨q, creator_kept hq hnone (fun k hk => advance_owner_kept hk hfree) keeps_id rfl
      fun op call hm => mem_own hm⟩
  by_cases hk : k = i
  · subst hk
    refine ⟨(run' (w.view (some k))).next, ?_, follows_ran hcode' hp.follows, ?_, ?_, ?_, ?_, ?_⟩
    · rw [advance_session_self]
      rfl
    · rw [advance_session_self]
      exact hp.writes.comp hposts (writes_ran hcode')
    · intro id target hflushed
      exact if_pos (posts_ran hcode' hflushed).1
    · intro hc hnot
      rw [hanswered] at hnot
      refine unasked_ran hc hp.follows hcode' (hp.unasked hc hnot) fun r e he => hnot ?_
      -- a capture that is about to ask finds the endpoint answered
      refine hclear.1 ?_
      obtain ⟨eventType, paymentRef, hevent⟩ := hc
      have hfollows := hp.follows
      rw [he] at hfollows
      cases hfollows.symm.trans hevent
      rw [hp.point, he]
      rfl
    · intro hc ha op hop
      rw [hanswered] at ha
      have horder := hasOrder_of_keeps (fun s => ⟨hp.writes.orders s, hp.writes.links s⟩)
        (h.hasOrder ha (hcreated hop))
      exact tracks_ran hc hp.follows hcode' horder (succeeded_aside hp.writes (hposts op.id)).mp
        (hp.tracks hc ha op (hcreated hop))
    · intro ha op hop hflushed
      rw [hanswered] at ha
      obtain ⟨-, r, settled, hpoint, hid, htarget⟩ := posts_ran hcode' hflushed
      obtain ⟨tx, hrows, htx⟩ := (h.hasOrder ha (hcreated hop)).rows
      refine hclear.2 op.id ?_ tx (by rw [hrows]; exact List.mem_singleton_self tx) htx
      rw [hp.point, hpoint, ← hid]
      obtain ⟨event, tx', op', dReserved, dCommitted⟩ := settled
      cases event with
      | captured _ _ _ => cases htarget
      | failed _ _ _ => rfl
  · have hne : some k ≠ some i := fun he => hk (Option.some.inj he)
    obtain ⟨q, hq⟩ := h.sessions k
    refine ⟨q, delivery_kept hq ?_ ?_ hanswered.mpr ?_ ?_⟩
    · exact advance_session_of_ne hne _ _
    · exact fun k hk => advance_owner_kept hk hfree
    · exact fun _ op hop => ⟨hcreated hop, fun hs => hs⟩
    · exact fun ha op hop => hq.failed (hanswered.mp ha) op (hcreated hop)

/-- The commit of a delivery. -/
theorem inv_delivery_committed (h : Inv env settings creator deliveries order s₀ w trace)
    {next : Place}
    (hcode : sessionCode env settings creator deliveries (some i) (w.session (some i)).point =
      .commit next) :
    Inv env settings creator deliveries order s₀ (w.publish (some i) next) trace := by
  obtain ⟨p, hp⟩ := h.sessions i
  rw [hp.point] at hcode
  obtain ⟨q, hcode', rfl⟩ := Stmt.map_eq_commit hcode
  obtain ⟨answer, settled, rfl, rfl⟩ := deliveryCode_commit hcode'
  have hnone : (w.publish (some i) (Place.delivery (.returned answer))).session none =
      w.session none := publish_session_of_ne (Option.some_ne_none i).symm _
  have hanswered : Answered (w.publish (some i) (Place.delivery (.returned answer))) ↔
      Answered w := by
    unfold Answered
    rw [hnone]
  have hcommitted : (w.publish (some i) (Place.delivery (.returned answer))).committed =
      (w.session (some i)).writes w.committed := rfl
  -- a success stays, for the only status flushed over it would be a failure
  have hmono (ha : Answered w) (op : FinancialOperation)
      (hop : Created creator.gateway order trace op) (hs : Succeeded op.id w.committed) :
      Succeeded op.id ((w.session (some i)).writes w.committed) := by
    rw [succeeded_writes hp.writes]
    obtain ⟨row, hrow, hstatus⟩ := hs
    refine ⟨row, hrow, ?_⟩
    cases hposts : posts op.id (.finish answer settled) with
    | none => exact hstatus
    | some target =>
      rcases target_cases hposts with rfl | rfl
      · rfl
      · exact absurd ⟨row, hrow, hstatus⟩ (hp.failed ha op hop hposts)
  refine ⟨?_, fun k => ?_⟩
  · obtain ⟨q, hq⟩ := h.endpoint
    exact ⟨q, creator_kept hq hnone (fun k hk => release_of_ne hk (Option.some_ne_none i).symm)
      (fun s => ⟨hp.writes.orders s, hp.writes.links s⟩) hcommitted fun _ _ hm => hm⟩
  by_cases hk : k = i
  · subst hk
    have hposts {id : String} {target : OperationStatus} :
        posts id (.returned answer) ≠ some target := Option.some_ne_none target |>.symm
    refine ⟨.returned answer, ?_, trivial, ?_, fun _ _ hflushed => absurd hflushed hposts, ?_, ?_,
      fun _ _ _ hflushed => absurd hflushed hposts⟩
    · rw [publish_session_self]
    · rw [publish_session_self]
      exact writes_id fun _ => rfl
    · intro hc hnot
      rw [hanswered] at hnot
      have hunasked := hp.unasked hc hnot
      cases settled with
      | none => exact hunasked
      | some settled => exact absurd hunasked fun h => h
    · intro hc ha op hop hprocessed
      rw [hanswered] at ha
      have htracks := hp.tracks hc ha op hop
      rw [hcommitted]
      cases settled with
      | none => exact hmono ha op hop (htracks hprocessed)
      | some settled =>
        obtain ⟨eventType, paymentRef, hevent⟩ := hc
        have hsettles : settled.event = .captured eventType order paymentRef :=
          DomainEvent.settling.inj (Option.some.inj (hp.follows.symm.trans hevent))
        obtain ⟨row, hrow⟩ := (h.hasOrder ha hop).stored
        rw [succeeded_writes hp.writes]
        refine ⟨row, hrow, ?_⟩
        have hid : settled.op.id = op.id := htracks
        simp only [posts, if_pos hid, hsettles]
        rfl
  · have hne : some k ≠ some i := fun he => hk (Option.some.inj he)
    obtain ⟨q, hq⟩ := h.sessions k
    refine ⟨q, delivery_kept hq ?_ ?_ hanswered.mpr ?_ ?_⟩
    · exact publish_session_of_ne hne _
    · exact fun k hk => release_of_ne hk hne
    · exact fun ha op hop => ⟨hop, hmono ha op hop⟩
    · intro ha op hop hflushed hs
      -- the row is held by one of them
      cases hposts : posts op.id (.finish answer settled) with
      | none =>
        exact hq.failed (hanswered.mp ha) op hop hflushed
          ((succeeded_aside hp.writes hposts).mp hs)
      | some target =>
        have hown := hq.lock op.id .failed hflushed
        rw [hp.lock op.id target hposts] at hown
        exact hne (Option.some.inj hown).symm

/-- A delivery is refused. -/
theorem inv_delivery_rolledBack (h : Inv env settings creator deliveries order s₀ w trace)
    {next : Place}
    (hcode : sessionCode env settings creator deliveries (some i) (w.session (some i)).point =
      .rollback next) :
    Inv env settings creator deliveries order s₀ (w.discard (some i) next) trace := by
  obtain ⟨p, hp⟩ := h.sessions i
  rw [hp.point] at hcode
  obtain ⟨q, hcode', rfl⟩ := Stmt.map_eq_rollback hcode
  obtain ⟨⟨refusal, rfl⟩, -⟩ := deliveryCode_rollback hcode'
  have hnone : (w.discard (some i) (Place.delivery (.refused refusal))).session none =
      w.session none := discard_session_of_ne (Option.some_ne_none i).symm _
  have hanswered : Answered (w.discard (some i) (Place.delivery (.refused refusal))) ↔
      Answered w := by
    unfold Answered
    rw [hnone]
  refine ⟨?_, fun k => ?_⟩
  · obtain ⟨q, hq⟩ := h.endpoint
    exact ⟨q, creator_kept hq hnone (fun k hk => release_of_ne hk (Option.some_ne_none i).symm)
      keeps_id rfl fun _ _ hm => hm⟩
  by_cases hk : k = i
  · subst hk
    refine ⟨.refused refusal, delivery_fresh ?_ trivial trivial fun _ => rfl⟩
    rw [discard_session_self]
  · have hne : some k ≠ some i := fun he => hk (Option.some.inj he)
    obtain ⟨q, hq⟩ := h.sessions k
    refine ⟨q, delivery_kept hq ?_ ?_ hanswered.mpr ?_ ?_⟩
    · exact discard_session_of_ne hne _
    · exact fun k hk => release_of_ne hk hne
    · exact fun _ op hop => ⟨hop, fun hs => hs⟩
    · exact fun ha op hop => hq.failed (hanswered.mp ha) op hop

/-! ### Every run -/

omit [DecidableEq ι] in
theorem sessionCode_grab {j : Option ι} {p : Place} {rows : Store → List Row}
    {run : List Row → Store → Effect Store Event Place} :
    sessionCode env settings creator deliveries j p ≠ .grab rows run := by
  intro hcode
  cases j with
  | none =>
    cases p with
    | creator p =>
      obtain ⟨run', hcode', -⟩ := Stmt.map_eq_grab hcode
      exact creatorCode_grab hcode'
    | delivery p => cases hcode
  | some i =>
    cases p with
    | creator p => cases hcode
    | delivery p =>
      obtain ⟨run', hcode', -⟩ := Stmt.map_eq_grab hcode
      exact deliveryCode_grab hcode'

/-- **One turn of any session.** -/
theorem inv_step (h : Inv env settings creator deliveries order s₀ w trace) {j : Option ι}
    (hclear : InOrder order w j)
    (hf : Fired (sessionCode env settings creator deliveries) w j labels w') :
    Inv env settings creator deliveries order s₀ w' (trace ++ labels) := by
  cases hf with
  | waited =>
    rw [List.append_nil]
    exact h
  | ran hcode hfree =>
    cases j with
    | none => exact inv_creator_ran h hcode hfree
    | some i => exact inv_delivery_ran h hclear hcode hfree
  | grabbed hcode _ => exact absurd hcode sessionCode_grab
  | committed hcode =>
    rw [List.append_nil]
    cases j with
    | none => exact inv_creator_committed h hcode
    | some i => exact inv_delivery_committed h hcode
  | rolledBack hcode =>
    rw [List.append_nil]
    cases j with
    | none => exact inv_creator_rolledBack h hcode
    | some i => exact inv_delivery_rolledBack h hcode

omit [DecidableEq ι] in
theorem inv_opening (hfree : OrderFree order s₀) :
    Inv env settings creator deliveries order s₀ (opening s₀ (sessionStart creator)) [] := by
  have hcalls : ∀ op call, ((none : Option ι), Event.gatewayCall op call) ∉ [] :=
    fun _ _ => List.not_mem_nil
  refine ⟨⟨creator.start, rfl, ?_, ?_, fun _ => ⟨rfl, hfree⟩⟩, fun i => ⟨.receive, ?_⟩⟩
  · cases creator <;> trivial
  · cases creator with
    | request call => exact .early hcalls keeps_id
    | approval call => exact .early hcalls keeps_id
  · exact delivery_fresh rfl trivial trivial fun _ => rfl

end Steps

end Sessions

/-- **Captures are kept**, as long as every capture of the order asks for its transaction after the
endpoint has answered and no failure is flushed over its success. -/
theorem capture_kept {ι : Type*} [DecidableEq ι] (env : Platform) (settings : Settings)
    (creator : Creator) (deliveries : ι → WebhookDelivery) (order : String) (s : Store)
    (hfree : OrderFree order s) (schedule : List (Option ι))
    (hclear : (interleaved (sessionCode env settings creator deliveries)).Along (InOrder order)
      (opening s (sessionStart creator)) schedule) :
    CaptureKept env settings creator deliveries order
      ((interleaved (sessionCode env settings creator deliveries)).trace
        (opening s (sessionStart creator)) schedule)
      ((interleaved (sessionCode env settings creator deliveries)).run
        (opening s (sessionStart creator)) schedule) := by
  have hstep : ∀ (trace : List (Option ι × Event)) (w : World (Option ι) Row Store Place)
      (j : Option ι), Inv env settings creator deliveries order s w trace → InOrder order w j →
        Inv env settings creator deliveries order s
          ((interleaved (sessionCode env settings creator deliveries)).next w j)
          (trace ++ (interleaved (sessionCode env settings creator deliveries)).log w j) :=
    fun _ w j h hclear => inv_step h hclear (fire_fired _ w j)
  have hrun := @Machine.inv_run_trace _ _ _ _ _
    (fun trace w => Inv env settings creator deliveries order s w trace) hstep [] _ _
    (inv_opening hfree) hclear
  intro op hcreated hanswered i answer hcaptures hpoint hprocessed
  obtain ⟨p, hp⟩ := hrun.sessions i
  have hreturned : p = .returned answer := Place.delivery.inj (hp.point.symm.trans hpoint)
  subst hreturned
  exact hp.tracks hcaptures hanswered op hcreated hprocessed

/-! ### A capture that overtakes the commit -/

section Runs

open ControlPlane.Sample

/-- The gateway's event about the payment of the first order. -/
def deliverA : WebhookDelivery :=
  ⟨capturedA, platform.hmacSha256Hex settings.razorpayWebhookSecret capturedA, "evt_fresh"⟩

/-- The request runs to its end before the capture comes in. -/
theorem capture_kept_orderA :
    CaptureKept platform settings (.request OperationSessions.Sample.callA)
      (fun _ : Unit => deliverA) "order_A"
      ((interleaved (sessionCode platform settings (.request OperationSessions.Sample.callA)
        fun _ : Unit => deliverA)).trace
        (opening store (sessionStart (.request OperationSessions.Sample.callA)))
        (List.replicate 10 none ++ List.replicate 8 (some ())))
      ((interleaved (sessionCode platform settings (.request OperationSessions.Sample.callA)
        fun _ : Unit => deliverA)).run
        (opening store (sessionStart (.request OperationSessions.Sample.callA)))
        (List.replicate 10 none ++ List.replicate 8 (some ()))) :=
  capture_kept platform settings _ _ "order_A" store (fun _ hm => absurd hm List.not_mem_nil) _
    (by decide +kernel)

/-- The endpoint asks the gateway for an order for the operation. -/
def asksGateway (id : String) : Option Unit × Event → Bool
  | (none, .gatewayCall op (.createOrder _ _ _ _)) => op.id = id
  | _ => false

def answeredProcessed : Place → Bool
  | .delivery (.returned answer) => answer.status = "PROCESSED"
  | _ => false

/-- The gateway has created the order and its payment is captured before the request commits: the
capture finds no transaction, is answered PROCESSED, and the operation stays EXECUTING. -/
theorem not_capture_kept_orderA :
    ¬ CaptureKept platform settings (.request OperationSessions.Sample.callA)
      (fun _ : Unit => deliverA) "order_A"
      ((interleaved (sessionCode platform settings (.request OperationSessions.Sample.callA)
        fun _ : Unit => deliverA)).trace
        (opening store (sessionStart (.request OperationSessions.Sample.callA)))
        (List.replicate 8 none ++ List.replicate 5 (some ()) ++ List.replicate 2 none))
      ((interleaved (sessionCode platform settings (.request OperationSessions.Sample.callA)
        fun _ : Unit => deliverA)).run
        (opening store (sessionStart (.request OperationSessions.Sample.callA)))
        (List.replicate 8 none ++ List.replicate 5 (some ()) ++ List.replicate 2 none)) := by
  intro h
  have hcalled : ((interleaved (sessionCode platform settings
      (.request OperationSessions.Sample.callA) fun _ : Unit => deliverA)).trace
      (opening store (sessionStart (.request OperationSessions.Sample.callA)))
      (List.replicate 8 none ++ List.replicate 5 (some ()) ++ List.replicate 2 none)).any
        (asksGateway OperationSessions.Sample.callA.inputs.id) = true := by decide +kernel
  obtain ⟨⟨j, e⟩, hm, hasks⟩ := List.any_eq_true.mp hcalled
  unfold asksGateway at hasks
  split at hasks
  · rename_i op amount currency receipt notes hlabel
    cases hlabel
    have hcreates : CreatesAt (Creator.gateway (.request OperationSessions.Sample.callA)) "order_A"
        (.createOrder amount currency receipt notes) := ⟨⟨_, rfl, rfl⟩, _, _, _, _, rfl⟩
    have hprocessed : answeredProcessed (((interleaved (sessionCode platform settings
        (.request OperationSessions.Sample.callA) fun _ : Unit => deliverA)).run
        (opening store (sessionStart (.request OperationSessions.Sample.callA)))
        (List.replicate 8 none ++ List.replicate 5 (some ()) ++ List.replicate 2 none)).session
          (some ())).point = true := by decide +kernel
    unfold answeredProcessed at hprocessed
    split at hprocessed
    swap
    · cases hprocessed
    rename_i answer hpoint
    have hsucceeded := h op ⟨_, hm, hcreates⟩ (by decide +kernel) () answer (by decide +kernel)
      hpoint (of_decide_eq_true hprocessed)
    rw [of_decide_eq_true hasks] at hsucceeded
    exact absurd hsucceeded (by decide +kernel)
  · cases hasks

end Runs

end MandatePlane.CaptureDelivery

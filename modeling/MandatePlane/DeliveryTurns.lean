import MandatePlane.DeliverySessions
import MandatePlane.HandlerPostings

/-!
# What the statements of a delivery keep

A delivery has one event, which every point of it carries.  Its writes change columns
that no lookup depends on, with one exception: the status of the operation it settles,
which it flushes under the lock of the operation's row, right before its commit.
-/

namespace MandatePlane.DeliveryTurns

open DomainModel KeyedTable JsonValue LedgerView HostEnvironment WebhookRoutes HandlerPostings
open ControlPlane ReadCommitted OperationSessions DeliverySessions

/-- The event a delivery brings to its domain handler. -/
def eventOf (env : Platform) (settings : Settings) (delivery : WebhookDelivery) :
    Option DomainEvent :=
  match readBody env settings delivery with
  | .error _ => none
  | .ok body =>
    match domainQuery env body.eventType body.eventData with
    | .error _ => none
    | .ok e => e

/-- The point belongs to the delivery's event. -/
def Follows (env : Platform) (settings : Settings) (delivery : WebhookDelivery) :
    DeliveryPoint → Prop
  | .record body _ => readBody env settings delivery = .ok body
  | .transaction _ e => eventOf env settings delivery = some e
  | .operation _ e _ => eventOf env settings delivery = some e
  | .mandate _ e _ _ => eventOf env settings delivery = some (.settling e)
  | .budget _ e _ _ _ _ => eventOf env settings delivery = some (.settling e)
  | .flush _ (some settled) => eventOf env settings delivery = some (.settling settled.event)
  | .finish _ (some settled) => eventOf env settings delivery = some (.settling settled.event)
  | _ => True

/-- The status a point has flushed to an operation. -/
def posts (id : String) : DeliveryPoint → Option OperationStatus
  | .finish _ (some settled) => if settled.op.id = id then some settled.event.target else none
  | _ => none

/-- What a session has written that has come to a point. -/
structure Writes (p : DeliveryPoint) (f : Store → Store) : Prop where
  orders : ∀ s, orders (f s) = orders s
  links : ∀ s, links (f s) = links s
  status : ∀ s id, ((f s).operations.find? id).map (·.status) =
    (s.operations.find? id).map fun row => (posts id p).getD row.status

section Writes

variable {p q : DeliveryPoint} {f g : Store → Store} {s : Store}

/-- Writes that leave operations and links alone. -/
theorem writes_aside (hposts : ∀ id, posts id p = none)
    (hoperations : ∀ s, (f s).operations = s.operations) (hlinks : ∀ s, links (f s) = links s) :
    Writes p f where
  orders s := by rw [LedgerView.orders, hoperations]; rfl
  links := hlinks
  status s id := by rw [hoperations, hposts]; rfl

theorem writes_id (hposts : ∀ id, posts id p = none) : Writes p id :=
  writes_aside hposts (fun _ => rfl) (fun _ => rfl)

/-- Writes on top of others, as long as no status was among these. -/
theorem Writes.comp (hf : Writes p f) (hposts : ∀ id, posts id p = none) (hg : Writes q g) :
    Writes q (g ∘ f) where
  orders s := (hg.orders (f s)).trans (hf.orders s)
  links s := (hg.links (f s)).trans (hf.links s)
  status s id := by
    have hkept := hf.status s id
    simp only [hposts id, Option.getD_none] at hkept
    have hmap (o : Option FinancialOperation) :
        o.map (fun row => (posts id q).getD row.status) =
          (o.map (·.status)).map fun status => (posts id q).getD status := by
      rw [Option.map_map]
      rfl
    show ((g (f s)).operations.find? id).map _ = _
    rw [hg.status (f s) id, hmap, hkept]
    exact (hmap _).symm

/-- A row is where it was. -/
theorem Writes.stored (hf : Writes p f) {id : String} {row : FinancialOperation}
    (h : s.operations.find? id = some row) : ∃ row', (f s).operations.find? id = some row' ∧
      row'.status = (posts id p).getD row.status ∧ orderOf row' = orderOf row := by
  have hstatus := hf.status s id
  rw [h] at hstatus
  obtain ⟨row', hrow', hsame⟩ := Option.map_eq_some_iff.mp hstatus
  have horder : (LedgerView.orders (f s)).find? id = (LedgerView.orders s).find? id := by
    rw [hf.orders s]
  rw [orders_find?, orders_find?, h, hrow'] at horder
  exact ⟨row', hrow', hsame, Option.some.inj horder⟩

end Writes

/-! ### One statement -/

section Statement

variable {env : Platform} {settings : Settings} {delivery : WebhookDelivery} {s : Store}
  {p next : DeliveryPoint} {rows : Store → List Row}
  {run : Store → Effect Store Event DeliveryPoint}

theorem follows_faulted (r : WebhookEvent) (fault : WebhookFault) :
    Follows env settings delivery (faulted r fault) := by
  cases fault <;> trivial

theorem follows_start {body : DeliveryBody} (hbody : readBody env settings delivery = .ok body)
    (r : WebhookEvent) : Follows env settings delivery (startEvent env body r) := by
  unfold startEvent
  cases hquery : domainQuery env body.eventType body.eventData with
  | error fault => exact follows_faulted r fault
  | ok found =>
    cases found with
    | none => trivial
    | some e =>
      show eventOf env settings delivery = some e
      simp only [eventOf, hbody, hquery]

theorem follows_judge {r : WebhookEvent} {e : SettlingEvent} {tx : Transaction}
    {op : FinancialOperation} (h : eventOf env settings delivery = some (.settling e)) :
    Follows env settings delivery (judge r e tx op) := by
  cases e with
  | captured eventType orderId paymentRef =>
    simp only [judge]
    split
    · trivial
    · split
      · trivial
      · exact h
  | failed eventType orderId paymentEntity =>
    simp only [judge]
    split
    · exact h
    · trivial

theorem follows_weigh {r : WebhookEvent} {e : SettlingEvent} {tx : Transaction}
    {op : FinancialOperation} (h : eventOf env settings delivery = some (.settling e))
    (mandate : Mandate) : Follows env settings delivery (weigh r e tx op mandate) := by
  unfold weigh
  dsimp only
  split <;> exact h

/-- **A delivery keeps to its event.** -/
theorem follows_ran (hcode : deliveryCode env settings delivery p = .exec rows run)
    (h : Follows env settings delivery p) : Follows env settings delivery (run s).next := by
  cases p with
  | receive =>
    cases hcode
    dsimp only
    split
    · trivial
    · rename_i body hbody
      split
      · trivial
      · exact hbody
  | record body existing =>
    cases existing with
    | some existing =>
      cases hcode
      exact follows_start h _
    | none =>
      simp only [deliveryCode] at hcode
      split at hcode
      · cases hcode
      · cases hcode
        dsimp only
        split
        · trivial
        · exact follows_start h _
  | transaction r e =>
    cases hcode
    dsimp only
    split
    · exact follows_faulted _ _
    · trivial
    · exact h
  | operation r e tx =>
    cases hcode
    cases e with
    | settling e =>
      cases hfind : s.operations.find? tx.operationId with
      | none =>
        simp only [hfind]
        trivial
      | some op =>
        simp only [hfind]
        exact follows_judge h
    | refund paymentId amount =>
      cases hfind : s.operations.find? tx.operationId with
      | none =>
        simp only [hfind]
        trivial
      | some op =>
        simp only [hfind]
        trivial
  | mandate r e tx op =>
    cases hcode
    dsimp only
    split
    · exact h
    · exact follows_weigh h _
  | budget r e tx op mandateId covered =>
    cases hcode
    exact h
  | refundMandate r amount op =>
    cases hcode
    dsimp only
    split <;> trivial
  | refundBudget r amount mandateId =>
    cases hcode
    dsimp only
    split
    · trivial
    · split
      · exact follows_faulted _ _
      · trivial
  | flush r settled =>
    cases settled with
    | none =>
      cases hcode
      trivial
    | some settled =>
      simp only [deliveryCode, settleStatement] at hcode
      split at hcode
      · cases hcode
      · cases hcode
        exact h
  | fault r text =>
    cases hcode
    trivial
  | finish answer settled => cases hcode
  | returned answer => cases hcode
  | raised refusal => cases hcode
  | refused refusal => cases hcode

theorem posts_start (env : Platform) (body : DeliveryBody) (r : WebhookEvent) (id : String) :
    posts id (startEvent env body r) = none := by
  unfold startEvent
  split
  · rename_i fault _
    cases fault <;> rfl
  · rfl
  · rfl

theorem posts_faulted (r : WebhookEvent) (fault : WebhookFault) (id : String) :
    posts id (faulted r fault) = none := by
  cases fault <;> rfl

theorem posts_judge (r : WebhookEvent) (e : SettlingEvent) (tx : Transaction)
    (op : FinancialOperation) (id : String) : posts id (judge r e tx op) = none := by
  cases e with
  | captured eventType orderId paymentRef =>
    simp only [judge]
    split
    · rfl
    · split <;> rfl
  | failed eventType orderId paymentEntity =>
    simp only [judge]
    split <;> rfl

theorem posts_weigh (r : WebhookEvent) (e : SettlingEvent) (tx : Transaction)
    (op : FinancialOperation) (mandate : Mandate) (id : String) :
    posts id (weigh r e tx op mandate) = none := by
  unfold weigh
  dsimp only
  split <;> rfl

theorem moveBudget_operations (e : SettlingEvent) (covered : Bool) (mandateId : String)
    (amount : ℤ) (s : Store) :
    (moveBudget e covered mandateId amount s).operations = s.operations := by
  cases e <;> cases covered <;> rfl

theorem moveBudget_links (e : SettlingEvent) (covered : Bool) (mandateId : String)
    (amount : ℤ) (s : Store) : links (moveBudget e covered mandateId amount s) = links s := by
  cases e <;> cases covered <;> rfl

/-- The status after a settlement's flush. -/
theorem status_settleRows (settled : Settlement) (written : Option String) (s : Store)
    (id : String) : ((settleRows settled written s).operations.find? id).map (·.status) =
      (s.operations.find? id).map fun row =>
        ((if settled.op.id = id then some settled.event.target else none).getD row.status) := by
  obtain ⟨event, tx, op, dReserved, dCommitted⟩ := settled
  have hrow {f : FinancialOperation → FinancialOperation} {status : OperationStatus}
      (hf : ∀ op, Keyed.key (f op) = Keyed.key op) (hstatus : ∀ op, (f op).status = status) :
      ((s.operations.modify op.id f hf).find? id).map (·.status) =
        (s.operations.find? id).map fun row =>
          ((if op.id = id then some status else none).getD row.status) := by
    by_cases hid : op.id = id
    · rw [← hid, Table.find?_modify_self, Option.map_map]
      simp only [if_true, Option.getD_some]
      exact congrArg (fun g => (s.operations.find? op.id).map g) (funext hstatus)
    · rw [Table.find?_modify_of_ne _ _ _ (Ne.symm hid)]
      simp only [if_neg hid, Option.getD_none]
  cases event with
  | captured eventType orderId paymentRef =>
    exact hrow (f := .moveTo .succeeded) (fun _ => key_kept rfl) fun _ => rfl
  | failed eventType orderId paymentEntity =>
    exact hrow (f := .moveToWith .failed written) (fun _ => key_kept rfl) fun _ => rfl

theorem orders_settleRows (settled : Settlement) (written : Option String) (s : Store) :
    orders (settleRows settled written s) = orders s := by
  unfold settleRows
  split <;> simp only [orders_audit, orders_updateTransactions, orders_moveTo, orders_moveToWith]

theorem links_settleRows (settled : Settlement) (written : Option String) (s : Store) :
    links (settleRows settled written s) = links s := by
  have haudit (s : Store) (e : AuditEvent) : links (s.audit e) = links s := rfl
  unfold settleRows
  split
  · rw [haudit]
    exact links_updateTransactions _ fun _ => rfl
  · rw [haudit]
    exact links_updateTransactions _ fun _ => rfl

/-- What a statement does: something aside, or the flush of a settlement. -/
inductive Turn (env : Platform) (p : DeliveryPoint) :
    List Row → Effect Store Event DeliveryPoint → Prop
  | aside {rows : List Row} {write : Store → Store} {events : List Event} {next : DeliveryPoint}
      (hposts : ∀ id, posts id next = none)
      (hoperations : ∀ s, (write s).operations = s.operations)
      (hlinks : ∀ s, links (write s) = links s)
      (hevents : ∀ e ∈ events, ∃ mandateId amount, e = .credited mandateId amount) :
      Turn env p rows ⟨write, events, next⟩
  | flushed {r : WebhookEvent} {settled : Settlement} {written : Option String}
      (hp : p = .flush r (some settled)) (hcolumn : column env settled.event = .ok written) :
      Turn env p [.operation settled.op.id, .transactions settled.op.id, .webhookEvent r.eventId]
        ⟨fun s => closeRecord r (settleRows settled written s), [settled.posted],
          .finish (processedAnswer r) (some settled)⟩

theorem turn_look {rows : List Row} {next : DeliveryPoint} (hposts : ∀ id, posts id next = none) :
    Turn env p rows ⟨id, [], next⟩ :=
  .aside hposts (fun _ => rfl) (fun _ => rfl) fun _ h => absurd h List.not_mem_nil

theorem turn_write {rows : List Row} {write : Store → Store} {next : DeliveryPoint}
    (hposts : ∀ id, posts id next = none)
    (hoperations : ∀ s, (write s).operations = s.operations)
    (hlinks : ∀ s, links (write s) = links s) : Turn env p rows ⟨write, [], next⟩ :=
  .aside hposts hoperations hlinks fun _ h => absurd h List.not_mem_nil

/-- **One statement of a delivery.** -/
theorem delivery_ran (hcode : deliveryCode env settings delivery p = .exec rows run) :
    Turn env p (rows s) (run s) := by
  cases p with
  | receive =>
    cases hcode
    refine turn_look fun id => ?_
    dsimp only
    split
    · rfl
    · split <;> rfl
  | record body existing =>
    cases existing with
    | some existing =>
      cases hcode
      exact turn_write (posts_start _ _ _) (fun _ => rfl) (fun _ => rfl)
    | none =>
      simp only [deliveryCode] at hcode
      split at hcode
      · cases hcode
      · cases hcode
        dsimp only
        split
        · exact turn_look fun _ => rfl
        · exact turn_write (posts_start _ _ _) (fun _ => rfl) (fun _ => rfl)
  | transaction r e =>
    cases hcode
    refine turn_look fun id => ?_
    dsimp only
    split
    · exact posts_faulted _ _ _
    · rfl
    · rfl
  | operation r e tx =>
    cases hcode
    refine turn_look fun id => ?_
    cases hfind : s.operations.find? tx.operationId with
    | none => simp only [hfind]; rfl
    | some op =>
      cases e with
      | settling e =>
        simp only [hfind]
        exact posts_judge _ _ _ _ _
      | refund paymentId amount => simp only [hfind]; rfl
  | mandate r e tx op =>
    cases hcode
    refine turn_look fun id => ?_
    dsimp only
    split
    · rfl
    · exact posts_weigh _ _ _ _ _ _
  | budget r e tx op mandateId covered =>
    cases hcode
    exact turn_write (fun _ => rfl) (moveBudget_operations e covered mandateId op.amount)
      (moveBudget_links e covered mandateId op.amount)
  | refundMandate r amount op =>
    cases hcode
    refine turn_look fun id => ?_
    dsimp only
    split <;> rfl
  | refundBudget r amount mandateId =>
    cases hcode
    dsimp only
    split
    · exact turn_look fun _ => rfl
    · split
      · exact turn_look (posts_faulted _ _)
      · refine .aside (fun _ => rfl) (fun _ => rfl) (fun _ => rfl) fun e he => ?_
        exact ⟨_, _, List.mem_singleton.mp he⟩
  | flush r settled =>
    cases settled with
    | none =>
      cases hcode
      exact turn_write (fun _ => rfl) (fun _ => rfl) (fun _ => rfl)
    | some settled =>
      simp only [deliveryCode, settleStatement] at hcode
      split at hcode
      · cases hcode
      · rename_i written hwritten
        cases hcode
        exact .flushed rfl hwritten
  | fault r text =>
    cases hcode
    exact turn_write (fun _ => rfl) (fun _ => rfl) (fun _ => rfl)
  | finish answer settled => cases hcode
  | returned answer => cases hcode
  | raised refusal => cases hcode
  | refused refusal => cases hcode

/-- The writes of one statement. -/
theorem writes_ran (hcode : deliveryCode env settings delivery p = .exec rows run) :
    Writes (run s).next (run s).write := by
  have hturn := @delivery_ran _ _ _ s _ _ _ hcode
  generalize run s = e at hturn ⊢
  generalize rows s = taken at hturn
  cases hturn with
  | aside hposts hoperations hlinks _ => exact writes_aside hposts hoperations hlinks
  | @flushed r settled written _ _ =>
    exact ⟨orders_settleRows settled written, links_settleRows settled written,
      status_settleRows settled written⟩

/-- A status is flushed from its settlement, under the lock of the operation's row. -/
theorem posts_ran (hcode : deliveryCode env settings delivery p = .exec rows run) {id : String}
    {target : OperationStatus} (h : posts id (run s).next = some target) :
    .operation id ∈ rows s ∧ ∃ r settled, p = .flush r (some settled) ∧ settled.op.id = id ∧
      settled.event.target = target := by
  have hturn := @delivery_ran _ _ _ s _ _ _ hcode
  generalize run s = e at hturn h
  generalize rows s = taken at hturn ⊢
  cases hturn with
  | aside hposts _ _ _ =>
    rw [hposts id] at h
    cases h
  | @flushed r settled written hp _ =>
    simp only [posts] at h
    split at h
    · rename_i hid
      rw [← hid]
      exact ⟨List.mem_cons_self, r, settled, hp, rfl, Option.some.inj h⟩
    · cases h

/-- A session that has flushed a status has nothing left but its commit. -/
theorem posts_of_exec (hcode : deliveryCode env settings delivery p = .exec rows run)
    (id : String) : posts id p = none := by
  cases p with
  | finish answer settled => cases hcode
  | receive => rfl
  | record _ _ => rfl
  | transaction _ _ => rfl
  | operation _ _ _ => rfl
  | mandate _ _ _ _ => rfl
  | budget _ _ _ _ _ _ => rfl
  | refundMandate _ _ _ => rfl
  | refundBudget _ _ _ => rfl
  | flush _ _ => rfl
  | fault _ _ => rfl
  | returned _ => rfl
  | raised _ => rfl
  | refused _ => rfl

/-- **What the statement of a point can be**: a statement to run, the commit at the end, the
rollback of a delivery that is refused, or nothing. -/
inductive Control : DeliveryPoint → Stmt Store Row Event DeliveryPoint → Prop
  | exec {p : DeliveryPoint} (rows : Store → List Row)
      (run : Store → Effect Store Event DeliveryPoint) : Control p (.exec rows run)
  | commit (answer : WebhookAnswer) (settled : Option Settlement) :
      Control (.finish answer settled) (.commit (.returned answer))
  | rollback {p : DeliveryPoint} (refusal : Refusal)
      (hp : ∀ answer settled, p ≠ .finish answer settled) :
      Control p (.rollback (.refused refusal))
  | stop {p : DeliveryPoint} : Control p .stop

theorem deliveryCode_control (env : Platform) (settings : Settings) (delivery : WebhookDelivery)
    (p : DeliveryPoint) : Control p (deliveryCode env settings delivery p) := by
  cases p with
  | record body existing =>
    cases existing with
    | some existing => exact .exec _ _
    | none =>
      simp only [deliveryCode]
      split
      · exact .rollback _ fun _ _ he => by cases he
      · exact .exec _ _
  | flush r settled =>
    cases settled with
    | none => exact .exec _ _
    | some settled =>
      simp only [deliveryCode, settleStatement]
      split
      · exact .rollback _ fun _ _ he => by cases he
      · exact .exec _ _
  | finish answer settled => exact .commit answer settled
  | raised refusal => exact .rollback refusal fun _ _ he => by cases he
  | returned _ => exact .stop
  | refused _ => exact .stop
  | receive => exact .exec _ _
  | transaction _ _ => exact .exec _ _
  | operation _ _ _ => exact .exec _ _
  | mandate _ _ _ _ => exact .exec _ _
  | budget _ _ _ _ _ _ => exact .exec _ _
  | refundMandate _ _ _ => exact .exec _ _
  | refundBudget _ _ _ => exact .exec _ _
  | fault _ _ => exact .exec _ _

/-- A delivery commits at its end only. -/
theorem deliveryCode_commit (hcode : deliveryCode env settings delivery p = .commit next) :
    ∃ answer settled, p = .finish answer settled ∧ next = .returned answer := by
  have h := deliveryCode_control env settings delivery p
  rw [hcode] at h
  cases h with
  | commit answer settled => exact ⟨answer, settled, rfl, rfl⟩

/-- A rollback refuses the delivery, before any status has been flushed. -/
theorem deliveryCode_rollback (hcode : deliveryCode env settings delivery p = .rollback next) :
    (∃ refusal, next = .refused refusal) ∧ ∀ answer settled, p ≠ .finish answer settled := by
  have h := deliveryCode_control env settings delivery p
  rw [hcode] at h
  cases h with
  | rollback refusal hp => exact ⟨⟨refusal, rfl⟩, hp⟩

/-- No statement of a delivery skips locked rows. -/
theorem deliveryCode_grab {run' : List Row → Store → Effect Store Event DeliveryPoint} :
    deliveryCode env settings delivery p ≠ .grab rows run' := by
  intro hcode
  have h := deliveryCode_control env settings delivery p
  rw [hcode] at h
  cases h

end Statement

end MandatePlane.DeliveryTurns

import MandatePlane.ConcurrentSweeps
import MandatePlane.DeliveryTurns
import MandatePlane.SettleOnce

/-!
# Deliveries and sweeps that settle one operation

Any number of webhook deliveries and sweeps run interleaved.  A sweep holds the rows of the
operations it decides on; a delivery reads its operation without a lock and moves the budget
later without asking again.

An operation is settled once, as long as no delivery moves its budget after somebody else has
settled it, and every delivery that looks the mandate up while the operation is in flight finds
its amount in `reserved_spend`.
-/

namespace MandatePlane.SettlementRace

open DomainModel KeyedTable LabelledRun LedgerView HostEnvironment WebhookRoutes
open ReconciliationWorker SweepVerdicts SweepCorrectness ControlPlane ReadCommitted OperationSessions
open DeliverySessions DeliveryTurns SweepSessions SweepTurns SettleOnce
open ConcurrentSweeps (carried_operations carried_operations_aside countP_flush_of_mem
  settle_not_inFlight)

/-! ### The sessions -/

/-- Who settles operations. -/
inductive Settler where
  | delivery (delivery : WebhookDelivery)
  | sweep (call : SweepCall)

inductive SettlerPoint where
  | delivery (p : DeliveryPoint)
  | sweep (p : SweepPoint)

namespace Settler

def start : Settler → SettlerPoint
  | .delivery _ => .delivery .receive
  | .sweep _ => .sweep .select

/-- A settler runs its own program. -/
def code (env : Platform) (settings : Settings) :
    Settler → SettlerPoint → Stmt Store Row Event SettlerPoint
  | .delivery d, .delivery p => (deliveryCode env settings d p).map .delivery
  | .sweep call, .sweep p => (sweepCode call p).map .sweep
  | _, _ => .stop

end Settler

/-- The settlers run interleaved. -/
def settlers {ι : Type*} [DecidableEq ι] (env : Platform) (settings : Settings)
    (parties : ι → Settler) : Machine (World ι Row Store SettlerPoint) ι (ι × Event) :=
  interleaved fun i => (parties i).code env settings

/-- The operation is RESERVED or EXECUTING. -/
def InFlight (id : String) (s : Store) : Prop :=
  ∃ row, s.operations.find? id = some row ∧ row.status.inFlight = true

instance (id : String) (s : Store) : Decidable (InFlight id s) :=
  decidable_of_iff (∃ row ∈ s.operations.find? id, row.status.inFlight = true) Iff.rfl

/-- The event takes the operation's amount out of `reserved_spend`. -/
def releasesAmount (o : FinancialOperation) : Event → Bool
  | .posted op _ dReserved _ => op.id = o.id && dReserved = -o.amount
  | _ => false

/-- The event adds the operation's amount to `current_aggregate_spend`. -/
def addsAmount (o : FinancialOperation) : Event → Bool
  | .posted op _ _ dCommitted => op.id = o.id && dCommitted = o.amount
  | _ => false

/-- The mandate of the operation has the amount in `reserved_spend`. -/
def Covered (op : FinancialOperation) (s : Store) : Prop :=
  ∃ m, s.mandates.find? op.mandateId = some m ∧ op.amount ≤ m.reservedSpend

instance (op : FinancialOperation) (s : Store) : Decidable (Covered op s) :=
  decidable_of_iff (∃ m ∈ s.mandates.find? op.mandateId, op.amount ≤ m.reservedSpend) Iff.rfl

/-- **The turn comes in time for the operation.**  A delivery that looks the mandate up while the
operation is in flight finds the amount covered, and a delivery whose UPDATE of the budget gets the
row finds the operation still in flight. -/
def InTime {ι : Type*} (id : String) (w : World ι Row Store SettlerPoint) (i : ι) : Prop :=
  match (w.session i).point with
  | .delivery (.mandate _ _ _ op) =>
    op.id = id → InFlight id w.committed → Covered op (w.view i)
  | .delivery (.budget _ _ _ op mandateId _) =>
    op.id = id → w.Available i (.mandate mandateId) → InFlight id w.committed
  | _ => True

instance {ι : Type*} [DecidableEq ι] (id : String) (w : World ι Row Store SettlerPoint) (i : ι) :
    Decidable (InTime id w i) := by
  unfold InTime
  split <;> infer_instance

/-! ### How far a session has got -/

section Stages

variable (o : FinancialOperation)

def deliveryStage : DeliveryPoint → Stage
  | .budget _ _ _ op _ false => if op.id = o.id then .late else .idle
  | .flush _ (some settled) =>
    if settled.op.id = o.id then if settled.dReserved = -o.amount then .written else .late else .idle
  | .finish _ (some settled) =>
    if settled.op.id = o.id then if settled.dReserved = -o.amount then .flushed else .late else .idle
  | _ => .idle

/-- What a delivery has in hand of the operation: its amount, and what its UPDATE has moved. -/
def DeliveryProper : DeliveryPoint → Prop
  | .mandate _ _ _ op => op.id = o.id → orderOf op = orderOf o
  | .budget _ _ _ op mandateId _ => op.id = o.id → orderOf op = orderOf o ∧ mandateId = o.mandateId
  | .flush _ (some settled) => settled.op.id = o.id →
    settled.dReserved = -o.amount ∨ settled.dReserved = 0 ∧ settled.dCommitted = 0
  | .finish _ (some settled) => settled.op.id = o.id →
    settled.dReserved = -o.amount ∨ settled.dReserved = 0 ∧ settled.dCommitted = 0
  | _ => True

def sweepStage : SweepPoint → Stage
  | .finish settled => if o.id ∈ ids settled then .flushed else .idle
  | p => if o.id ∈ ids (ruledOn p) then .written else .idle

/-- The sweep holds the operation's row. -/
def SweepGuarded (p : SweepPoint) : Prop := ∃ op ∈ held p, op.id = o.id

/-- What a sweep has in hand. -/
structure SweepProper (p : SweepPoint) : Prop where
  order : ∀ op ∈ held p, op.id = o.id → orderOf op = orderOf o
  orderly : Orderly p

def settlerStage : SettlerPoint → Stage
  | .delivery p => deliveryStage o p
  | .sweep p => sweepStage o p

def SettlerGuarded : SettlerPoint → Prop
  | .delivery _ => False
  | .sweep p => SweepGuarded o p

/-- A settler is at a point of its own program. -/
def SettlerProper : Settler → SettlerPoint → Prop
  | .delivery _, .delivery p => DeliveryProper o p
  | .sweep _, .sweep p => SweepProper o p
  | _, _ => False

/-- **The operation as a hold**: on the row of its mandate, settled in its own row. -/
def scheme {ι : Type*} (parties : ι → Settler) : Scheme ι Row Store Event SettlerPoint where
  live := InFlight o.id
  known s := (orders s).find? o.id = some (orderOf o)
  account := .mandate o.mandateId
  hold := .operation o.id
  released := releasesAmount o
  added := addsAmount o
  stage _ p := settlerStage o p
  guarded _ p := SettlerGuarded o p
  proper i p := SettlerProper o (parties i) p

end Stages

/-! ### A statement of a delivery -/

section Delivery

variable {env : Platform} {settings : Settings} {delivery : WebhookDelivery} {o : FinancialOperation}
  {s : Store} {p : DeliveryPoint} {rows : Store → List Row}
  {run : Store → Effect Store Event DeliveryPoint}

/-- The point has no settlement under way. -/
def Plain : DeliveryPoint → Prop
  | .mandate _ _ _ _ => False
  | .budget _ _ _ _ _ _ => False
  | .flush _ (some _) => False
  | .finish _ (some _) => False
  | _ => True

/-- Where a statement of a delivery leads. -/
inductive Leads (s : Store) : DeliveryPoint → List Row → DeliveryPoint → Prop
  | plain {p next : DeliveryPoint} {rows : List Row} (hp : Plain p) (hnext : Plain next) :
      Leads s p rows next
  | loaded {r : WebhookEvent} {e : SettlingEvent} {tx : Transaction} {op : FinancialOperation}
      {rows : List Row} (hop : s.operations.find? tx.operationId = some op) :
      Leads s (.operation r (.settling e) tx) rows (.mandate r e tx op)
  | uncovered {r : WebhookEvent} {e : SettlingEvent} {tx : Transaction} {op : FinancialOperation}
      {rows : List Row} (hnot : ¬ Covered op s) :
      Leads s (.mandate r e tx op) rows (.flush r (some ⟨e, tx, op, 0, 0⟩))
  | weighed {r : WebhookEvent} {e : SettlingEvent} {tx : Transaction} {op : FinancialOperation}
      {rows : List Row} {covered : Bool} (hcovered : covered = true ↔ Covered op s) :
      Leads s (.mandate r e tx op) rows (.budget r e tx op op.mandateId covered)
  | updated {r : WebhookEvent} {e : SettlingEvent} {tx : Transaction} {op : FinancialOperation}
      {mandateId : String} {covered : Bool} :
      Leads s (.budget r e tx op mandateId covered) [.mandate mandateId]
        (.flush r (some ⟨e, tx, op, (moved e covered op.amount).1, (moved e covered op.amount).2⟩))
  | flushed {r : WebhookEvent} {settled : Settlement} {rows : List Row} :
      Leads s (.flush r (some settled)) rows (.finish (processedAnswer r) (some settled))

theorem plain_faulted (r : WebhookEvent) (fault : WebhookFault) : Plain (faulted r fault) := by
  cases fault <;> trivial

theorem plain_start (body : DeliveryBody) (r : WebhookEvent) : Plain (startEvent env body r) := by
  unfold startEvent
  split
  · exact plain_faulted r _
  · trivial
  · trivial

/-- The operation is loaded. -/
theorem leads_judge {r : WebhookEvent} {e : SettlingEvent} {tx : Transaction}
    {op : FinancialOperation} {taken : List Row}
    (hop : s.operations.find? tx.operationId = some op) :
    Leads s (.operation r (.settling e) tx) taken (judge r e tx op) := by
  cases e with
  | captured eventType orderId paymentRef =>
    simp only [judge]
    split
    · exact .plain trivial trivial
    · split
      · exact .plain trivial trivial
      · exact .loaded hop
  | failed eventType orderId paymentEntity =>
    simp only [judge]
    split
    · exact .loaded hop
    · exact .plain trivial trivial

/-- The mandate is loaded. -/
theorem leads_weigh {r : WebhookEvent} {e : SettlingEvent} {tx : Transaction}
    {op : FinancialOperation} {taken : List Row} {m : Mandate}
    (hm : s.mandates.find? op.mandateId = some m) :
    Leads s (.mandate r e tx op) taken (weigh r e tx op m) := by
  have hid : m.id = op.mandateId := Table.key_of_find? hm
  have hiff : decide (m.reservedSpend ≥ op.amount) = true ↔ Covered op s := by
    rw [decide_eq_true_iff]
    constructor
    · exact fun hle => ⟨m, hm, hle⟩
    · rintro ⟨m', hm', hle⟩
      rw [hm] at hm'
      cases hm'
      exact hle
  unfold weigh
  dsimp only
  split
  · rename_i hcovered
    rw [hcovered] at hiff
    exact .uncovered fun hc => Bool.false_ne_true (hiff.mpr hc)
  · rw [hid]
    exact .weighed hiff

/-- **Where a statement of a delivery leads.** -/
theorem delivery_leads (hcode : deliveryCode env settings delivery p = .exec rows run) :
    Leads s p (rows s) (run s).next := by
  cases p with
  | receive =>
    cases hcode
    refine .plain trivial ?_
    dsimp only
    split
    · trivial
    · split <;> trivial
  | record body existing =>
    cases existing with
    | some existing =>
      cases hcode
      exact .plain trivial (plain_start body _)
    | none =>
      simp only [deliveryCode] at hcode
      split at hcode
      · cases hcode
      · cases hcode
        refine .plain trivial ?_
        dsimp only
        split
        · trivial
        · exact plain_start body _
  | transaction r e =>
    cases hcode
    refine .plain trivial ?_
    dsimp only
    split
    · exact plain_faulted r _
    · trivial
    · trivial
  | operation r e tx =>
    cases hcode
    cases hop : s.operations.find? tx.operationId with
    | none =>
      refine .plain trivial ?_
      simp only [hop]
      trivial
    | some op =>
      cases e with
      | settling e =>
        simp only [hop]
        exact leads_judge hop
      | refund paymentId amount =>
        refine .plain trivial ?_
        simp only [hop]
        trivial
  | mandate r e tx op =>
    cases hcode
    cases hm : s.mandates.find? op.mandateId with
    | none =>
      simp only [hm]
      refine .uncovered ?_
      rintro ⟨m, hm', -⟩
      rw [hm] at hm'
      cases hm'
    | some m =>
      simp only [hm]
      exact leads_weigh hm
  | budget r e tx op mandateId covered =>
    cases hcode
    exact .updated
  | refundMandate r amount op =>
    cases hcode
    refine .plain trivial ?_
    dsimp only
    split <;> trivial
  | refundBudget r amount mandateId =>
    cases hcode
    refine .plain trivial ?_
    dsimp only
    split
    · trivial
    · split
      · exact plain_faulted r _
      · trivial
  | flush r settled =>
    cases settled with
    | none =>
      cases hcode
      exact .plain trivial trivial
    | some settled =>
      simp only [deliveryCode, settleStatement] at hcode
      split at hcode
      · cases hcode
      · cases hcode
        exact .flushed
  | fault r text =>
    cases hcode
    exact .plain trivial trivial
  | finish answer settled => cases hcode
  | returned answer => cases hcode
  | raised refusal => cases hcode
  | refused refusal => cases hcode

theorem plain_proper (h : Plain p) : deliveryStage o p = .idle ∧ DeliveryProper o p := by
  cases p with
  | flush r settled =>
    cases settled with
    | none => exact ⟨rfl, trivial⟩
    | some settled => exact absurd h id
  | finish answer settled =>
    cases settled with
    | none => exact ⟨rfl, trivial⟩
    | some settled => exact absurd h id
  | mandate r e tx op => exact absurd h id
  | budget r e tx op mandateId covered => exact absurd h id
  | receive => exact ⟨rfl, trivial⟩
  | record body existing => exact ⟨rfl, trivial⟩
  | transaction r e => exact ⟨rfl, trivial⟩
  | operation r e tx => exact ⟨rfl, trivial⟩
  | refundMandate r amount op => exact ⟨rfl, trivial⟩
  | refundBudget r amount mandateId => exact ⟨rfl, trivial⟩
  | fault r text => exact ⟨rfl, trivial⟩
  | returned answer => exact ⟨rfl, trivial⟩
  | raised refusal => exact ⟨rfl, trivial⟩
  | refused refusal => exact ⟨rfl, trivial⟩

end Delivery

section Flight

variable {id : String} {s : Store}

theorem inFlight_iff : InFlight id s ↔
    ∃ status, (s.operations.find? id).map (·.status) = some status ∧ status.inFlight = true := by
  constructor
  · rintro ⟨row, hrow, hflight⟩
    exact ⟨row.status, by rw [hrow]; rfl, hflight⟩
  · rintro ⟨status, hstatus, hflight⟩
    obtain ⟨row, hrow, rfl⟩ := Option.map_eq_some_iff.mp hstatus
    exact ⟨row, hrow, hflight⟩

/-- The status decides. -/
theorem inFlight_congr {s' : Store}
    (h : (s'.operations.find? id).map (·.status) = (s.operations.find? id).map (·.status)) :
    InFlight id s' ↔ InFlight id s := by
  rw [inFlight_iff, inFlight_iff, h]

/-- A row of the operation still is the order it was. -/
theorem orderOf_of_known {o row : FinancialOperation}
    (hknown : (orders s).find? o.id = some (orderOf o))
    (hrow : s.operations.find? o.id = some row) : orderOf row = orderOf o := by
  rw [orders_find?, hrow] at hknown
  exact Option.some.inj hknown

theorem order_columns {op o : FinancialOperation} (h : orderOf op = orderOf o) :
    op.mandateId = o.mandateId ∧ op.amount = o.amount := by
  have hmandate := congrArg FinancialOperation.mandateId h
  have hamount := congrArg FinancialOperation.amount h
  exact ⟨hmandate, hamount⟩

end Flight

section Delivered

variable {ι : Type*} {env : Platform} {settings : Settings}
  {parties : ι → Settler} {delivery : WebhookDelivery} {o : FinancialOperation}
  {w : World ι Row Store SettlerPoint} {trace : List (ι × Event)} {i : ι} {p : DeliveryPoint}
  {rows : Store → List Row} {run : Store → Effect Store Event DeliveryPoint}

/-- A status that is flushed to the operation settles it. -/
theorem stage_of_posts {target : OperationStatus} (h : posts o.id p = some target) :
    (deliveryStage o p = .flushed ∨ deliveryStage o p = .late) ∧ target.inFlight = false := by
  unfold posts at h
  split at h
  · rename_i answer settled
    split at h
    · rename_i hid
      cases h
      refine ⟨?_, by cases settled.event <;> rfl⟩
      simp only [deliveryStage, if_pos hid]
      by_cases hmoved : settled.dReserved = -o.amount
      · exact .inl (if_pos hmoved)
      · exact .inr (if_neg hmoved)
    · cases h
  · cases h

theorem not_flushed_of_posts (h : posts o.id p = none) : deliveryStage o p ≠ .flushed := by
  intro hst
  cases p with
  | finish answer settled =>
    cases settled with
    | none => cases hst
    | some settled =>
      simp only [posts, ite_eq_right_iff, reduceCtorEq, imp_false] at h
      simp only [deliveryStage, if_neg h, reduceCtorEq] at hst
  | budget r e tx op mandateId covered =>
    cases covered with
    | true => cases hst
    | false =>
      simp only [deliveryStage] at hst
      split at hst <;> cases hst
  | flush r settled =>
    cases settled with
    | none => cases hst
    | some settled =>
      simp only [deliveryStage] at hst
      split at hst
      · split at hst <;> cases hst
      · cases hst
  | _ => cases hst

/-- What the writes of a delivery do to the hold. -/
theorem wrote_delivery {f : Store → Store} (hf : Writes p f) :
    (scheme o parties).Wrote (deliveryStage o p) f := by
  have hknown : ∀ s, (scheme o parties).known s → (scheme o parties).known (f s) := by
    intro s hs
    show (orders (f s)).find? o.id = some (orderOf o)
    rw [hf.orders s]
    exact hs
  cases hposts : posts o.id p with
  | none =>
    have hlive : ∀ s, InFlight o.id (f s) ↔ InFlight o.id s := by
      intro s
      refine inFlight_congr ((hf.status s o.id).trans ?_)
      rw [hposts]
      rfl
    have hnot := not_flushed_of_posts hposts
    generalize deliveryStage o p = st at hnot
    cases st with
    | idle => exact fun s hs => ⟨hknown s hs, hlive s⟩
    | written => exact fun s hs => ⟨hknown s hs, hlive s⟩
    | flushed => exact absurd rfl hnot
    | late => exact fun s hs => ⟨hknown s hs, (hlive s).mp⟩
  | some target =>
    obtain ⟨hstage, htarget⟩ := stage_of_posts hposts
    have hdead : ∀ s, ¬ InFlight o.id (f s) := by
      rintro s ⟨row, hrow, hflight⟩
      have hstatus := hf.status s o.id
      rw [hrow, hposts] at hstatus
      obtain ⟨before, -, hrow'⟩ := Option.map_eq_some_iff.mp hstatus.symm
      have hrow'' : target = row.status := hrow'
      rw [← hrow'', htarget] at hflight
      cases hflight
    rcases hstage with hst | hst
    · rw [hst]
      exact fun s hs => ⟨hknown s hs, hdead s⟩
    · rw [hst]
      exact fun s hs => ⟨hknown s hs, fun hl => absurd hl (hdead s)⟩

theorem quiet_nil : (scheme o parties).Quiet [] := ⟨rfl, rfl⟩

/-- A refund is not about a reservation. -/
theorem quiet_credited {events : List Event}
    (h : ∀ e ∈ events, ∃ mandateId amount, e = .credited mandateId amount) :
    (scheme o parties).Quiet events := by
  refine ⟨List.countP_eq_zero.mpr fun e he => ?_, List.countP_eq_zero.mpr fun e he => ?_⟩
  · obtain ⟨mandateId, amount, rfl⟩ := h e he
    exact Bool.false_ne_true
  · obtain ⟨mandateId, amount, rfl⟩ := h e he
    exact Bool.false_ne_true

/-- Nor is a settlement of another operation, or one that has moved nothing. -/
theorem quiet_posted {op : FinancialOperation} {target : OperationStatus} {dReserved dCommitted : ℤ}
    (hpos : 0 < o.amount) (h : op.id = o.id → dReserved = 0 ∧ dCommitted = 0) :
    (scheme o parties).Quiet [.posted op target dReserved dCommitted] := by
  by_cases hid : op.id = o.id
  · obtain ⟨rfl, rfl⟩ := h hid
    have hreleased : (0 : ℤ) ≠ -o.amount := by omega
    have hadded : (0 : ℤ) ≠ o.amount := by omega
    constructor
    · simp [scheme, releasesAmount, hreleased]
    · simp [scheme, addsAmount, hadded]
  · constructor
    · simp [scheme, releasesAmount, hid]
    · simp [scheme, addsAmount, hid]

/-- **A statement of a delivery** that comes in time keeps to the rules. -/
theorem delivery_allowed (hpos : 0 < o.amount) (h : (scheme o parties).Once w trace)
    (hparty : parties i = .delivery delivery) (hpoint : (w.session i).point = .delivery p)
    (htime : InTime o.id w i) (hcode : deliveryCode env settings delivery p = .exec rows run)
    (hfree : ∀ k ∈ rows (w.view i), w.Available i k) :
    (scheme o parties).Allowed w i (rows (w.view i)) ((run (w.view i)).map .delivery) := by
  have hproper := (h.held i).proper
  have hlate := (h.held i).late
  have hknown : (orders (w.view i)).find? o.id = some (orderOf o) := h.view_known i
  unfold InTime at htime
  rw [hpoint] at hproper hlate htime
  have hproper : SettlerProper o (parties i) (.delivery p) := hproper
  rw [hparty] at hproper
  have hproper : DeliveryProper o p := hproper
  have hlate : deliveryStage o p = .late → ¬ InFlight o.id w.committed := hlate
  suffices hgoal : DeliveryProper o (run (w.view i)).next ∧
      (scheme o parties).Move (InFlight o.id w.committed) (rows (w.view i)) (run (w.view i)).emits
        (deliveryStage o p) (deliveryStage o (run (w.view i)).next) by
    refine ⟨?_, wrote_delivery (writes_ran hcode), ?_, fun hg => absurd hg not_false⟩
    · show SettlerProper o (parties i) (.delivery (run (w.view i)).next)
      rw [hparty]
      exact hgoal.1
    · rw [hpoint]
      exact hgoal.2
  have hleads := @delivery_leads _ _ _ (w.view i) _ _ _ hcode
  have hturn := @delivery_ran _ _ _ (w.view i) _ _ _ hcode
  generalize run (w.view i) = e at hleads hturn ⊢
  generalize rows (w.view i) = taken at hleads hturn hfree ⊢
  cases hturn with
  | @flushed r settled written hp hcolumn =>
    subst hp
    have hmoved : settled.op.id = o.id →
        settled.dReserved = -o.amount ∨ settled.dReserved = 0 ∧ settled.dCommitted = 0 := hproper
    refine ⟨hmoved, ?_⟩
    simp only [deliveryStage]
    by_cases hid : settled.op.id = o.id
    · rw [if_pos hid, if_pos hid]
      by_cases hfull : settled.dReserved = -o.amount
      · rw [if_pos hfull, if_pos hfull]
        refine .flushed ?_ ?_ List.countP_le_length
        · show Row.operation o.id ∈ _
          rw [← hid]
          exact List.mem_cons_self
        · simp [scheme, releasesAmount, Settlement.posted, hid, hfull]
      · rw [if_neg hfull, if_neg hfull]
        exact .kept (quiet_posted hpos fun _ => (hmoved hid).resolve_left hfull)
    · rw [if_neg hid, if_neg hid]
      exact .kept (quiet_posted hpos fun he => absurd he hid)
  | aside hposts hoperations hlinks hevents =>
    have hquiet := @quiet_credited _ parties o _ hevents
    dsimp only at hleads ⊢
    cases hleads with
    | plain hp hnext =>
      rw [(plain_proper hp).1, (plain_proper hnext).1]
      exact ⟨(plain_proper hnext).2, .kept hquiet⟩
    | @loaded r e tx op _ hop =>
      have hid : op.id = tx.operationId := Table.key_of_find? hop
      refine ⟨fun hself => ?_, .kept hquiet⟩
      rw [← hid, hself] at hop
      exact orderOf_of_known hknown hop
    | @uncovered r e tx op _ hnot =>
      refine ⟨fun _ => .inr ⟨rfl, rfl⟩, ?_⟩
      simp only [deliveryStage]
      by_cases hid : op.id = o.id
      · have hzero : (0 : ℤ) ≠ -o.amount := by omega
        rw [if_pos hid, if_neg hzero]
        exact .late (fun hl => hnot (htime hid hl)) hquiet
      · rw [if_neg hid]
        exact .kept hquiet
    | @weighed r e tx op _ covered hcovered =>
      have hrow : op.id = o.id → orderOf op = orderOf o := hproper
      refine ⟨fun hid => ⟨hrow hid, (order_columns (hrow hid)).1⟩, ?_⟩
      cases covered with
      | true => exact .kept hquiet
      | false =>
        simp only [deliveryStage]
        by_cases hid : op.id = o.id
        · rw [if_pos hid]
          exact .late (fun hl => Bool.false_ne_true (hcovered.mpr (htime hid hl))) hquiet
        · rw [if_neg hid]
          exact .kept hquiet
    | @updated r e tx op mandateId covered =>
      by_cases hid : op.id = o.id
      · obtain ⟨hrow, hmandate⟩ := hproper hid
        have hlive : InFlight o.id w.committed := htime hid (hfree _ (List.mem_singleton_self _))
        cases covered with
        | false =>
          -- the hold was settled when the mandate was looked up, and nobody brings it back
          exact absurd hlive (hlate (by simp only [deliveryStage, if_pos hid]))
        | true =>
          have hamount : op.amount = o.amount := (order_columns hrow).2
          have hfull : (moved e true op.amount).1 = -o.amount := by
            rw [← hamount]
            cases e <;> rfl
          refine ⟨fun _ => .inl hfull, ?_⟩
          simp only [deliveryStage, if_pos hid, if_pos hfull]
          refine .wrote hlive ?_ hquiet
          show Row.mandate o.mandateId ∈ _
          rw [hmandate]
          exact List.mem_singleton_self _
      · refine ⟨fun he => absurd he hid, ?_⟩
        have hidle : deliveryStage o (.budget r e tx op mandateId covered) = .idle := by
          cases covered with
          | true => rfl
          | false => simp only [deliveryStage, if_neg hid]
        rw [hidle]
        simp only [deliveryStage, if_neg hid]
        exact .kept hquiet
    | @flushed r settled _ =>
      have hnone := hposts settled.op.id
      simp only [posts, if_true, reduceCtorEq] at hnone

end Delivered

/-! ### A statement of a sweep -/

section Flush

variable {o : FinancialOperation} {D settled : List Ruling} {r : Ruling} {s : Store} {id : String}

theorem flushes_budgets_comm : flushes D (budgets settled s) = budgets settled (flushes D s) := by
  induction D generalizing s with
  | nil => rfl
  | cons r D ih =>
    show flushes D (r.flush (budgets settled s)) = budgets settled (flushes D (r.flush s))
    rw [flush_budgets_comm, ih]

/-- The flush settles the operations. -/
theorem flushes_operations : (flushes D s).operations = (carried D s).operations := by
  rw [← flushes_budgets, flushes_budgets_comm, (budgets_rows D (flushes D s)).1]

theorem orders_flushes : orders (flushes D s) = orders s := by
  induction D generalizing s with
  | nil => rfl
  | cons r D ih =>
    refine (ih (s := r.flush s)).trans ?_
    obtain ⟨op, v⟩ := r
    cases v with
    | keep => rfl
    | release message reason => exact orders_moveToWith s op.id .failed (some message) fun _ => key_kept rfl
    | commit orderId => exact orders_moveTo s op.id .succeeded fun _ => key_kept rfl

/-- An operation of the sweep is settled by its flush, the others are left alone. -/
theorem inFlight_flushes (hnodup : (ids D).Nodup) (hD : ∀ r ∈ D, r.verdict ≠ .keep) :
    InFlight id (flushes D s) ↔ InFlight id s ∧ id ∉ ids D := by
  unfold InFlight
  rw [flushes_operations]
  by_cases hid : id ∈ ids D
  · obtain ⟨r, hr, rfl⟩ := List.mem_map.mp hid
    rw [carried_operations hnodup hr]
    refine iff_of_false ?_ fun h => h.2 hid
    rintro ⟨row, hrow, hflight⟩
    obtain ⟨op, -, rfl⟩ := Option.map_eq_some_iff.mp hrow
    rw [settle_not_inFlight (hD r hr)] at hflight
    cases hflight
  · rw [carried_operations_aside hid]
    exact ⟨fun h => ⟨h, hid⟩, fun h => h.1⟩

/-- What the sweep posts about the operation. -/
theorem posted_counts (hpos : 0 < o.amount) (hr : r.verdict ≠ .keep)
    (horder : r.op.id = o.id → orderOf r.op = orderOf o) :
    r.posted.countP (releasesAmount o) = (if r.op.id = o.id then 1 else 0) ∧
      r.posted.countP (addsAmount o) ≤ (if r.op.id = o.id then 1 else 0) := by
  obtain ⟨op, v⟩ := r
  have hzero : (0 : ℤ) ≠ o.amount := by omega
  by_cases hid : op.id = o.id
  · have hamount : op.amount = o.amount := (order_columns (horder hid)).2
    cases v with
    | keep => exact absurd rfl hr
    | release message reason =>
      simp [Ruling.posted, postings, releasesAmount, addsAmount, hid, hamount, hzero]
    | commit orderId =>
      simp [Ruling.posted, postings, releasesAmount, addsAmount, hid, hamount]
  · cases v with
    | keep => exact absurd rfl hr
    | release message reason =>
      simp [Ruling.posted, postings, releasesAmount, addsAmount, hid]
    | commit orderId =>
      simp [Ruling.posted, postings, releasesAmount, addsAmount, hid]

end Flush

section Swept

variable {ι : Type*} {parties : ι → Settler} {call : SweepCall} {o : FinancialOperation}
  {w : World ι Row Store SettlerPoint} {trace : List (ι × Event)} {i : ι} {p : SweepPoint}
  {rows : Store → List Row} {s : Store} {e : Effect Store Event SweepPoint}

/-- Writes that leave the operations alone. -/
theorem wrote_aside {st : Stage} (hst : st = .idle ∨ st = .written) {f : Store → Store}
    (hoperations : ∀ s, (f s).operations = s.operations) : (scheme o parties).Wrote st f := by
  have hkept : ∀ s, (scheme o parties).known s →
      (scheme o parties).known (f s) ∧ (InFlight o.id (f s) ↔ InFlight o.id s) := by
    intro s hs
    constructor
    · show (orders (f s)).find? o.id = some (orderOf o)
      rw [LedgerView.orders, hoperations]
      exact hs
    · unfold InFlight
      rw [hoperations]
  rcases hst with rfl | rfl <;> exact hkept

/-- What a statement of a sweep writes. -/
theorem wrote_sweep {taken : List Row} (hturn : SweepTurn call s p taken e) (hp : Orderly p) :
    (scheme o parties).Wrote (sweepStage o e.next) e.write := by
  have hnext := hturn.orderly hp
  have haside (hst : sweepStage o e.next = if o.id ∈ ids (ruledOn e.next) then .written else .idle)
      (hoperations : ∀ s, (e.write s).operations = s.operations) :
      (scheme o parties).Wrote (sweepStage o e.next) e.write := by
    refine wrote_aside ?_ hoperations
    rw [hst]
    split
    · exact .inr rfl
    · exact .inl rfl
  cases hturn with
  | @flushed settled =>
    have hlive := fun s => @inFlight_flushes settled s o.id hnext.ids_nodup hnext.decided
    have hknown : ∀ s, (scheme o parties).known s → (scheme o parties).known (flushes settled s) := by
      intro s hs
      show (orders (flushes settled s)).find? o.id = some (orderOf o)
      rw [orders_flushes]
      exact hs
    show (scheme o parties).Wrote (if o.id ∈ ids settled then .flushed else .idle) (flushes settled)
    by_cases hid : o.id ∈ ids settled
    · rw [if_pos hid]
      exact fun s hs => ⟨hknown s hs, fun hl => ((hlive s).mp hl).2 hid⟩
    · rw [if_neg hid]
      exact fun s hs => ⟨hknown s hs, (hlive s).trans (and_iff_left hid)⟩
  | @settled r todo settled _ => exact haside rfl fun s => (budget_rows r s).1
  | selected => exact haside rfl fun s => rfl
  | locked => exact haside rfl fun s => rfl
  | skipped => exact haside rfl fun s => rfl
  | found => exact haside rfl fun s => rfl
  | raised => exact haside rfl fun s => rfl
  | ruled => exact haside rfl fun s => rfl
  | kept => exact haside rfl fun s => rfl

/-- What the flush posts about the operation. -/
theorem flush_counts {settled : List Ruling} (hpos : 0 < o.amount)
    (hp : SweepProper o (.finish settled)) :
    (settled.flatMap Ruling.posted).countP (releasesAmount o) =
        (if o.id ∈ ids settled then 1 else 0) ∧
      (settled.flatMap Ruling.posted).countP (addsAmount o) ≤
        (if o.id ∈ ids settled then 1 else 0) := by
  have hcounts : ∀ r ∈ settled, r.posted.countP (releasesAmount o) =
      (if r.op.id = o.id then 1 else 0) ∧
        r.posted.countP (addsAmount o) ≤ (if r.op.id = o.id then 1 else 0) := fun r hr =>
    posted_counts hpos (hp.orderly.decided r hr) (hp.order r.op (List.mem_map_of_mem hr))
  have haside : ∀ r ∈ settled, r.op.id ≠ o.id →
      r.posted.countP (releasesAmount o) = 0 ∧ r.posted.countP (addsAmount o) = 0 := by
    intro r hr hne
    have hr' := hcounts r hr
    rw [if_neg hne] at hr'
    exact ⟨hr'.1, Nat.le_zero.mp hr'.2⟩
  by_cases hid : o.id ∈ ids settled
  · obtain ⟨r, hr, hself⟩ := List.mem_map.mp hid
    have hself : r.op.id = o.id := hself
    have hone := hcounts r hr
    rw [if_pos hself] at hone
    have hnodup := hp.orderly.ids_nodup
    rw [if_pos hid,
      countP_flush_of_mem hnodup (fun r' hr' hne => (haside r' hr' (hself ▸ hne)).1) hr,
      countP_flush_of_mem hnodup (fun r' hr' hne => (haside r' hr' (hself ▸ hne)).2) hr]
    exact hone
  · have hnone : ∀ r ∈ settled, r.op.id ≠ o.id := fun r hr he => hid (he ▸ List.mem_map_of_mem hr)
    rw [if_neg hid]
    constructor
    · refine List.countP_eq_zero.mpr fun event hevent => ?_
      obtain ⟨r, hr, hposted⟩ := List.mem_flatMap.mp hevent
      exact List.countP_eq_zero.mp (haside r hr (hnone r hr)).1 event hposted
    · refine Nat.le_zero.mpr (List.countP_eq_zero.mpr fun event hevent => ?_)
      obtain ⟨r, hr, hposted⟩ := List.mem_flatMap.mp hevent
      exact List.countP_eq_zero.mp (haside r hr (hnone r hr)).2 event hposted

theorem SweepProper.turn {taken : List Row} (hp : SweepProper o p)
    (hturn : SweepTurn call s p taken e) : SweepProper o e.next :=
  ⟨fun op hop => hp.order op (hturn.held_subperm.subset hop), hturn.orderly hp.orderly⟩

/-- How far a statement of a sweep gets: the sweep holds the row of what it settles, so the
operation is still in flight. -/
theorem sweep_moves {taken : List Row} {live : Prop} (hpos : 0 < o.amount)
    (hp : SweepProper o p) (hlive : SweepGuarded o p → live)
    (hturn : SweepTurn call s p taken e) :
    (scheme o parties).Move live taken e.emits (sweepStage o p) (sweepStage o e.next) := by
  have hnext := hp.turn hturn
  cases hturn with
  | @settled r todo settled _ =>
    by_cases hid : r.op.id = o.id
    · have hbefore : o.id ∉ ids settled := by
        intro hm
        obtain ⟨r', hr', hself⟩ := List.mem_map.mp hm
        have hnodup := hp.orderly.nodup
        rw [show sought (.budget r todo settled) = [] from rfl, List.append_nil] at hnodup
        have hcons : (held (.budget r todo settled)).map FinancialOperation.id =
            r.op.id :: (todo ++ settled.map Ruling.op).map FinancialOperation.id := rfl
        rw [hcons, List.nodup_cons] at hnodup
        refine hnodup.1 (List.mem_map.mpr ⟨r'.op, ?_, ?_⟩)
        · exact List.mem_append_right _ (List.mem_map_of_mem hr')
        · exact hself.trans hid.symm
      have hafter : o.id ∈ ids (settled ++ [r]) :=
        List.mem_map.mpr ⟨r, List.mem_append_right _ (List.mem_singleton_self r), hid⟩
      have horder := hp.order r.op List.mem_cons_self hid
      show (scheme o parties).Move live _ _ (if o.id ∈ ids settled then .written else .idle)
        (if o.id ∈ ids (settled ++ [r]) then .written else .idle)
      rw [if_neg hbefore, if_pos hafter]
      refine .wrote (hlive ⟨r.op, List.mem_cons_self, hid⟩) ?_ quiet_nil
      show Row.mandate o.mandateId ∈ _
      rw [(order_columns horder).1]
      exact List.mem_singleton_self _
    · have hsame : o.id ∈ ids (settled ++ [r]) ↔ o.id ∈ ids settled := by
        unfold ids
        rw [List.map_append, List.mem_append, List.map_singleton, List.mem_singleton]
        exact or_iff_left (Ne.symm hid)
      show (scheme o parties).Move live _ _ (if o.id ∈ ids settled then .written else .idle)
        (if o.id ∈ ids (settled ++ [r]) then .written else .idle)
      simp only [hsame]
      exact .kept quiet_nil
  | @flushed settled =>
    obtain ⟨hreleased, hadded⟩ := flush_counts hpos hnext
    show (scheme o parties).Move live _ _ (if o.id ∈ ids settled then .written else .idle)
      (if o.id ∈ ids settled then .flushed else .idle)
    by_cases hid : o.id ∈ ids settled
    · rw [if_pos hid] at hreleased hadded
      rw [if_pos hid, if_pos hid]
      refine .flushed ?_ hreleased hadded
      obtain ⟨r, hr, hself⟩ := List.mem_map.mp hid
      refine List.mem_flatMap.mpr ⟨r, hr, ?_⟩
      have hdecided := hnext.orderly.decided r hr
      obtain ⟨op, v⟩ := r
      show Row.operation o.id ∈ _
      rw [← hself]
      cases v with
      | keep => exact absurd rfl hdecided
      | release message reason => exact List.mem_cons_self
      | commit orderId => exact List.mem_cons_self
    · rw [if_neg hid] at hreleased hadded
      rw [if_neg hid, if_neg hid]
      exact .kept ⟨hreleased, Nat.le_zero.mp hadded⟩
  | selected => exact .kept quiet_nil
  | locked => exact .kept quiet_nil
  | skipped => exact .kept quiet_nil
  | found => exact .kept quiet_nil
  | raised => exact .kept quiet_nil
  | ruled => exact .kept quiet_nil
  | kept => exact .kept quiet_nil

end Swept

/-! ### Every session keeps to the rules -/

section Rules

variable {ι : Type*} [DecidableEq ι] {env : Platform} {settings : Settings} {parties : ι → Settler}
  {o : FinancialOperation} {w w' : World ι Row Store SettlerPoint} {trace labels : List (ι × Event)}
  {i : ι}

theorem lawful_delivery {delivery : WebhookDelivery} {p : DeliveryPoint} (hpos : 0 < o.amount)
    (h : (scheme o parties).Once w trace) (hparty : parties i = .delivery delivery)
    (hpoint : (w.session i).point = .delivery p) (htime : InTime o.id w i) :
    (scheme o parties).Lawful (fun i => (parties i).code env settings) w i := by
  have hcode : (parties i).code env settings (w.session i).point =
      (deliveryCode env settings delivery p).map .delivery := by
    rw [hparty, hpoint]
    rfl
  have hend {q : DeliveryPoint} (hq : Plain q) : (scheme o parties).AtEnd i (.delivery q) := by
    refine ⟨?_, (plain_proper hq).1, not_false⟩
    show SettlerProper o (parties i) (.delivery q)
    rw [hparty]
    exact (plain_proper hq).2
  refine ⟨fun hexec hfree => ?_, fun hgrab _ => ?_, fun hcommit => ?_, fun hrollback => ?_⟩
  · obtain ⟨run, hrun, rfl⟩ := Stmt.map_eq_exec (hcode.symm.trans hexec)
    exact delivery_allowed hpos h hparty hpoint htime hrun hfree
  · obtain ⟨run, hrun, -⟩ := Stmt.map_eq_grab (hcode.symm.trans hgrab)
    exact absurd hrun deliveryCode_grab
  · obtain ⟨q, hq, rfl⟩ := Stmt.map_eq_commit (hcode.symm.trans hcommit)
    obtain ⟨answer, settled, rfl, rfl⟩ := deliveryCode_commit hq
    refine ⟨?_, hend trivial⟩
    rw [hpoint]
    show deliveryStage o (.finish answer settled) ≠ .written
    cases settled with
    | none => exact nofun
    | some settled =>
      simp only [deliveryStage]
      split
      · split <;> exact nofun
      · exact nofun
  · obtain ⟨q, hq, rfl⟩ := Stmt.map_eq_rollback (hcode.symm.trans hrollback)
    obtain ⟨⟨refusal, rfl⟩, hnot⟩ := deliveryCode_rollback hq
    refine ⟨?_, hend trivial⟩
    rw [hpoint]
    refine not_flushed_of_posts (p := p) ?_
    cases p with
    | finish answer settled => exact absurd rfl (hnot answer settled)
    | _ => rfl

omit [DecidableEq ι] in
/-- **The lock of one row** is the sweep's part in the operation, if the row is the operation's. -/
theorem grab_allowed {call : SweepCall} {p : SweepPoint} {free : List Row}
    {e : Effect Store Event SweepPoint} (h : (scheme o parties).Once w trace)
    (hparty : parties i = .sweep call) (hpoint : (w.session i).point = .sweep p)
    (hgrab : SweepGrab call (w.view i) p free e) :
    (scheme o parties).Allowed w i free (e.map .sweep) := by
  have hproper : SettlerProper o (parties i) (w.session i).point := (h.held i).proper
  have hknown : (orders (w.view i)).find? o.id = some (orderOf o) := h.view_known i
  have hview := h.view_live (i := i)
  rw [hparty, hpoint] at hproper
  rw [hpoint] at hview
  have hproper : SweepProper o p := hproper
  have horderly := hgrab.orderly hproper.orderly
  have hidle (rest locked : List FinancialOperation) :
      settlerStage o (.sweep (.lock rest locked)) = .idle := by
    show (if o.id ∈ ids [] then Stage.written else .idle) = .idle
    exact if_neg List.not_mem_nil
  have hkept {rest locked : List FinancialOperation} (hq : SweepProper o (.lock rest locked)) :
      SettlerProper o (parties i) (.sweep (.lock rest locked)) := by
    rw [hparty]
    exact hq
  cases hgrab with
  | @skipped _ op rest locked =>
    refine ⟨hkept ⟨hproper.order, horderly⟩, ?_, ?_, fun hg => ?_⟩
    · exact wrote_aside (.inl (hidle rest locked)) fun _ => rfl
    · rw [hpoint]
      exact .kept quiet_nil
    · rw [hpoint]
      exact .inl hg
  | @locked _ op row rest locked hrow hstuck hfree =>
    have hid : row.id = op.id := Table.key_of_find? hrow
    refine ⟨hkept ⟨fun op' hop' hself => ?_, horderly⟩, ?_, ?_, ?_⟩
    · rcases List.mem_append.mp hop' with hold | hnew
      · exact hproper.order op' hold hself
      · rw [List.mem_singleton.mp hnew] at hself ⊢
        rw [← hid, hself] at hrow
        exact orderOf_of_known hknown hrow
    · exact wrote_aside (.inl (hidle rest (locked ++ [row]))) fun _ => rfl
    · rw [hpoint]
      exact .kept quiet_nil
    · rintro ⟨op', hop', hself⟩
      rw [hpoint]
      rcases List.mem_append.mp hop' with hold | hnew
      · exact .inl ⟨op', hold, hself⟩
      · -- the row is looked at again, and is still in flight
        rw [List.mem_singleton.mp hnew] at hself
        rw [← hid, hself] at hrow hfree
        refine .inr ⟨hfree, (hview (hidle (op :: rest) locked)).mp ⟨row, hrow, ?_⟩⟩
        exact (Bool.and_eq_true_iff.mp hstuck).1

theorem lawful_sweep {call : SweepCall} {p : SweepPoint} (hpos : 0 < o.amount)
    (h : (scheme o parties).Once w trace) (hparty : parties i = .sweep call)
    (hpoint : (w.session i).point = .sweep p) :
    (scheme o parties).Lawful (fun i => (parties i).code env settings) w i := by
  have hcode : (parties i).code env settings (w.session i).point =
      (sweepCode call p).map .sweep := by
    rw [hparty, hpoint]
    rfl
  have hheld := h.held i
  have hproper : SettlerProper o (parties i) (w.session i).point := hheld.proper
  rw [hparty, hpoint] at hproper
  have hproper : SweepProper o p := hproper
  have hguarded : SweepGuarded o p → InFlight o.id w.committed := by
    intro hg
    refine (hheld.settling (.inr ?_)).2
    rw [hpoint]
    exact hg
  have hkept {q : SweepPoint} (hq : SweepProper o q) :
      SettlerProper o (parties i) (.sweep q) := by
    rw [hparty]
    exact hq
  have hend {q : SweepPoint} (hq : Orderly q) (hheld : held q = []) (hruled : ruledOn q = [])
      (hst : sweepStage o q = .idle) : (scheme o parties).AtEnd i (.sweep q) := by
    refine ⟨hkept ⟨fun op hop => ?_, hq⟩, hst, ?_⟩
    · rw [hheld] at hop
      cases hop
    · rintro ⟨op, hop, -⟩
      rw [hheld] at hop
      cases hop
  refine ⟨fun {rows _} hexec _ => ?_, fun {rows _ free} hgrab hfree => ?_, fun hcommit => ?_,
    fun hrollback => ?_⟩
  · obtain ⟨run, hrun, rfl⟩ := Stmt.map_eq_exec (hcode.symm.trans hexec)
    have hturn := @sweep_ran _ (w.view i) _ _ _ hrun
    refine ⟨hkept (hproper.turn hturn), wrote_sweep hturn hproper.orderly, ?_, ?_⟩
    · rw [hpoint]
      exact sweep_moves hpos hproper hguarded hturn
    · rintro ⟨op, hop, hid⟩
      rw [hpoint]
      exact .inl ⟨op, hturn.held_subperm.subset hop, hid⟩
  · obtain ⟨run, hrun, rfl⟩ := Stmt.map_eq_grab (hcode.symm.trans hgrab)
    refine grab_allowed h hparty hpoint (sweep_grabbed hrun fun k hk => ?_)
    have hk' : k ∈ free := hk
    rw [hfree] at hk'
    exact (List.mem_filter.mp hk').1
  · obtain ⟨q, hq, rfl⟩ := Stmt.map_eq_commit (hcode.symm.trans hcommit)
    obtain ⟨settled, rfl, rfl⟩ := sweepCode_commit hq
    refine ⟨?_, hend ⟨List.nodup_nil, fun r hr => absurd hr List.not_mem_nil⟩ rfl rfl rfl⟩
    rw [hpoint]
    show (if o.id ∈ ids settled then Stage.flushed else .idle) ≠ .written
    split <;> exact nofun
  · obtain ⟨q, hq, rfl⟩ := Stmt.map_eq_rollback (hcode.symm.trans hrollback)
    obtain ⟨settled, refusal, rfl, rfl⟩ := sweepCode_rollback hq
    refine ⟨?_, hend ⟨List.nodup_nil, fun r hr => absurd hr List.not_mem_nil⟩ rfl rfl rfl⟩
    rw [hpoint]
    show (if o.id ∈ ids settled then Stage.written else .idle) ≠ .flushed
    split <;> exact nofun

/-- **A turn that comes in time** keeps the operation settled once. -/
theorem settlers_step (hpos : 0 < o.amount) (h : (scheme o parties).Once w trace)
    (htime : InTime o.id w i) :
    (scheme o parties).Once ((settlers env settings parties).next w i)
      (trace ++ (settlers env settings parties).log w i) := by
  have hproper : SettlerProper o (parties i) (w.session i).point := (h.held i).proper
  refine once_step h ?_ (fire_fired (fun i => (parties i).code env settings) w i)
  cases hparty : parties i with
  | delivery delivery =>
    cases hpoint : (w.session i).point with
    | delivery p => exact lawful_delivery hpos h hparty hpoint htime
    | sweep p =>
      rw [hparty, hpoint] at hproper
      exact absurd hproper not_false
  | sweep call =>
    cases hpoint : (w.session i).point with
    | delivery p =>
      rw [hparty, hpoint] at hproper
      exact absurd hproper not_false
    | sweep p => exact lawful_sweep hpos h hparty hpoint

omit [DecidableEq ι] in
theorem once_opening {s : Store} (ho : o ∈ s.operations.rows) (hflight : o.status.inFlight = true) :
    (scheme o parties).Once (opening s fun i => (parties i).start) [] := by
  have hfind : s.operations.find? o.id = some o := Table.find?_of_mem ho
  have hstart (i : ι) : settlerStage o (parties i).start = .idle ∧
      SettlerProper o (parties i) (parties i).start ∧
        ¬ SettlerGuarded o (parties i).start := by
    cases parties i with
    | delivery delivery => exact ⟨rfl, trivial, not_false⟩
    | sweep call =>
      refine ⟨rfl, ⟨fun op hop => absurd hop List.not_mem_nil, List.nodup_nil,
        fun r hr => absurd hr List.not_mem_nil⟩, ?_⟩
      rintro ⟨op, hop, -⟩
      cases hop
  refine ⟨?_, fun i => ⟨?_, (hstart i).2.1, ?_, ?_, ?_⟩, ?_⟩
  · show (orders s).find? o.id = some (orderOf o)
    rw [orders_find?, hfind]
    rfl
  · show (scheme o parties).Wrote (settlerStage o (parties i).start) id
    rw [(hstart i).1]
    exact (scheme o parties).wrote_id
  · show (settlerStage o (parties i).start).Moving → _
    rw [(hstart i).1]
    rintro (h | h) <;> cases h
  · rintro (h | h)
    · exact absurd ((hstart i).1.symm.trans h) nofun
    · exact absurd h (hstart i).2.2
  · intro h
    exact absurd ((hstart i).1.symm.trans h) nofun
  · exact .pending ⟨o, hfind, hflight⟩ (fun i h => absurd ((hstart i).1.symm.trans h) nofun) rfl rfl

end Rules

/-! ### Every interleaving -/

/-- **Settled once**: the amount of the operation leaves `reserved_spend` at most once, and has left
it as soon as the operation is not in flight any more; it is added to `current_aggregate_spend` at
most once. -/
def SettledOnce {ι : Type*} (o : FinancialOperation) (w : World ι Row Store SettlerPoint)
    (trace : List (ι × Event)) : Prop :=
  (trace.countP fun l => releasesAmount o l.2) ≤ 1 ∧
    (trace.countP fun l => addsAmount o l.2) ≤ 1 ∧
    (¬ InFlight o.id w.committed → (trace.countP fun l => releasesAmount o l.2) = 1)

instance {ι : Type*} (o : FinancialOperation) (w : World ι Row Store SettlerPoint)
    (trace : List (ι × Event)) : Decidable (SettledOnce o w trace) := by
  unfold SettledOnce
  infer_instance

/-- **Deliveries and sweeps settle an operation once**, however many interleave and however they do,
as long as every turn comes in time for it. -/
theorem settled_once {ι : Type*} [DecidableEq ι] (env : Platform) (settings : Settings)
    (parties : ι → Settler) (s : Store) (o : FinancialOperation) (ho : o ∈ s.operations.rows)
    (hflight : o.status.inFlight = true) (hpos : 0 < o.amount) (schedule : List ι)
    (htime : (settlers env settings parties).Along (InTime o.id)
      (opening s fun i => (parties i).start) schedule) :
    SettledOnce o
      ((settlers env settings parties).run (opening s fun i => (parties i).start) schedule)
      ((settlers env settings parties).trace (opening s fun i => (parties i).start) schedule) := by
  have hstep : ∀ trace w i, (scheme o parties).Once w trace → InTime o.id w i →
      (scheme o parties).Once ((settlers env settings parties).next w i)
        (trace ++ (settlers env settings parties).log w i) :=
    fun _ _ _ h hi => settlers_step hpos h hi
  have hrun := @Machine.inv_run_trace _ _ _ _ _ (fun trace w => (scheme o parties).Once w trace)
    hstep [] _ schedule (once_opening ho hflight) htime
  exact ⟨hrun.at_most.1, hrun.at_most.2, hrun.exactly⟩

/-! ### A delivery that is overtaken by a sweep -/

section Runs

open ControlPlane.Sample

/-- The first order has been requested, and waits for its payment. -/
def executing : Store := (controlPlane platform settings).run store [requestA]

/-- The payment of the order is captured; a sweep finds the order paid. -/
def race : Bool → Settler
  | true => .delivery (delivery capturedA)
  | false => .sweep ⟨sweepA, id, fun _ => .refl _⟩

/-- The delivery and then the sweep: the operation is settled once. -/
theorem settled_once_in_turn :
    ∃ o ∈ executing.operations.rows, o.status.inFlight = true ∧ 0 < o.amount ∧
      SettledOnce o
        ((settlers platform settings race).run (opening executing fun i => (race i).start)
          (List.replicate 8 true ++ List.replicate 8 false))
        ((settlers platform settings race).trace (opening executing fun i => (race i).start)
          (List.replicate 8 true ++ List.replicate 8 false)) := by
  obtain ⟨o, ho, hflight, hpos, htime⟩ : ∃ o ∈ executing.operations.rows,
      o.status.inFlight = true ∧ 0 < o.amount ∧
        (settlers platform settings race).Along (InTime o.id)
          (opening executing fun i => (race i).start)
          (List.replicate 8 true ++ List.replicate 8 false) := by decide +kernel
  exact ⟨o, ho, hflight, hpos, settled_once platform settings race executing o ho hflight hpos _ htime⟩

/-- The delivery has read the operation in flight and the mandate covered when the sweep settles the
operation; then it moves the budget again.  The operation has been settled twice: 600 were reserved
for it, and 1200 have left `reserved_spend` and been added to `current_aggregate_spend`. -/
theorem not_settled_once_overtaken :
    (∃ o ∈ executing.operations.rows, o.status.inFlight = true ∧ 0 < o.amount ∧
      isStuck sweepA o = true ∧
      ¬ SettledOnce o
        ((settlers platform settings race).run (opening executing fun i => (race i).start)
          (List.replicate 5 true ++ List.replicate 8 false ++ List.replicate 3 true))
        ((settlers platform settings race).trace (opening executing fun i => (race i).start)
          (List.replicate 5 true ++ List.replicate 8 false ++ List.replicate 3 true))) ∧
      (executing.mandates.find? "mnd_1").map
        (fun m => (m.reservedSpend, m.currentAggregateSpend)) = some (600, 0) ∧
      ((((settlers platform settings race).run (opening executing fun i => (race i).start)
        (List.replicate 5 true ++ List.replicate 8 false ++ List.replicate 3 true)).committed).mandates.find?
          "mnd_1").map (fun m => (m.reservedSpend, m.currentAggregateSpend)) = some (-600, 1200) := by
  decide +kernel

end Runs

end MandatePlane.SettlementRace

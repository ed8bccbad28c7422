import MandatePlane.ControlPlane
import MandatePlane.JournalReplay

/-!
# The audit trail of a mandate

The events about a mandate, replayed from its creation, give a reserved amount, a
committed amount and a status.  Whether these are the stored ones is settled handler by
handler: the sums a handler moves against the sums in the events it adds.

Handlers that move and record the same keep the trail; the others are the dispatched
refund, the granted approval, the settlement of an operation whose reservation does not
cover it, the processed refund and the activation.
-/

namespace MandatePlane.AuditTrail

open DomainModel KeyedTable JsonValue HostEnvironment JournalReplay LabelledRun HandlerPostings
open OperationRoutes WebhookRoutes MandateRoutes ReconciliationWorker CallerAuth RazorpayClient
open PolicyEngine ControlPlane MandateSteps

/-! ### Reading the events -/

/-- What is stored of a mandate, as far as its events speak of it. -/
structure Position where
  reserved : ℤ
  committed : ℤ
  status : String
  deriving DecidableEq

namespace Position

def shift (dReserved dCommitted : ℤ) (p : Position) : Position :=
  { p with reserved := p.reserved + dReserved, committed := p.committed + dCommitted }

def withStatus (status : String) (p : Position) : Position := { p with status }

theorem shift_zero : shift 0 0 = id := by
  funext p
  simp [shift]

end Position

def position (m : Mandate) : Position :=
  ⟨m.reservedSpend, m.currentAggregateSpend, m.status.value⟩

def positions (s : Store) (id : String) : Option Position := (s.mandates.find? id).map position

/-- The amount in an event: under the key of its kind, or under `amount`. -/
def amountUnder (key : String) (payload : Dict) : ℤ :=
  match dictGet payload key (dictGet payload "amount" (.int 0)) with
  | .int amount => amount
  | _ => 0

/-- The status in a `new_state`. -/
def statusIn (state : Option Dict) : String :=
  match dictGet (state.getD []) "status" .null with
  | .str status => status
  | _ => ""

/-- What an event about a mandate makes of what was known of it. -/
def enterEvent (e : AuditEvent) (known : Option Position) : Option Position :=
  match e.action with
  | .mandateCreated => some ⟨0, 0, statusIn e.newState⟩
  | .mandateSuspended => known.map (Position.withStatus (statusIn e.newState))
  | .mandateRevoked => known.map (Position.withStatus (statusIn e.newState))
  | .budgetReserved => known.map (Position.shift (amountUnder "reserved_amount" e.payload) 0)
  | .budgetCommitted =>
    let amount := amountUnder "committed_amount" e.payload
    known.map (Position.shift (-amount) amount)
  | .budgetReleased => known.map (Position.shift (-amountUnder "released_amount" e.payload) 0)
  | .agentStatusChanged => known
  | .policyEvaluated => known
  | .humanApprovalGranted => known
  | .humanApprovalRejected => known
  | .transactionRecorded => known

/-- The trail: the events with `resource_type` MANDATE, by their `resource_id`. -/
def trail : Reading String AuditEvent Position where
  subject e := if e.resourceType = "MANDATE" then some e.resourceId else none
  enter := enterEvent

/-- **The trail determines the ledger**: the events of every mandate, replayed, give its stored
`reserved_spend`, `current_aggregate_spend` and `status`. -/
def Determined (s : Store) : Prop :=
  ∀ m ∈ s.mandates.rows, trail.replay s.auditEvents m.id = some (position m)

instance (s : Store) : Decidable (Determined s) :=
  inferInstanceAs
    (Decidable (∀ m ∈ s.mandates.rows, trail.replay s.auditEvents m.id = some (position m)))

theorem determined_iff {s : Store} : Determined s ↔ trail.Tells s.auditEvents (positions s) := by
  constructor
  · intro h id p hp
    obtain ⟨m, hm, rfl⟩ := Option.map_eq_some_iff.mp hp
    have hid : m.id = id := Table.key_of_find? hm
    rw [← hid]
    exact h m (Table.mem_of_find? hm)
  · intro h m hm
    have hfind : s.mandates.find? m.id = some m := Table.find?_of_mem hm
    refine h m.id (position m) ?_
    rw [positions, hfind, Option.map_some]

theorem operation_ne_mandate : "FINANCIAL_OPERATION" ≠ "MANDATE" := by decide +kernel

theorem agent_ne_mandate : "AGENT" ≠ "MANDATE" := by decide +kernel

/-! ### Moves of one mandate -/

/-- Between two stores one mandate moves by `stored`, and its events say `told`. -/
abbrev Moved (s s' : Store) (k : String) (stored told : Position → Position) : Prop :=
  trail.Move k stored told (positions s) (positions s') s.auditEvents s'.auditEvents

section Moves

variable {s s' : Store} {k : String} {f g t : Position → Position} {e : AuditEvent}

/-- Neither the mandates nor the events change. -/
theorem moved_quiet (hm : s'.mandates = s.mandates) (he : s'.auditEvents = s.auditEvents) :
    Moved s s' k id id := by
  have hp : positions s' = positions s := by
    funext k'
    rw [positions, hm, positions]
  rw [Moved, hp, he]
  exact .refl trail k _ _

/-- A write to the mandate. -/
theorem moved_update {F : Mandate → Mandate} (hF : ∀ m, Keyed.key (F m) = Keyed.key m)
    (hposition : ∀ m, position (F m) = f (position m)) :
    Moved s (s.updateMandate k F hF) k f id := by
  refine ⟨?_, fun k' hk => ?_, fun _ h => h, fun _ _ => rfl⟩
  · show ((s.mandates.modify k F hF).find? k).map position = _
    rw [Table.find?_modify_self, Option.map_map, positions, Option.map_map]
    congr 1
    funext m
    exact hposition m
  · show ((s.mandates.modify k F hF).find? k').map position = _
    rw [Table.find?_modify_of_ne _ _ _ hk, positions]

/-- An event about the mandate. -/
theorem moved_audit (h : Moved s s' k f g) (htype : e.resourceType = "MANDATE")
    (hid : e.resourceId = k) (henter : ∀ p, enterEvent e (some p) = some (t p)) :
    Moved s (s'.audit e) k f (t ∘ g) := by
  refine h.snoc ?_ henter
  show (if e.resourceType = "MANDATE" then some e.resourceId else none) = some k
  rw [if_pos htype, hid]

/-- An event that is not about a mandate. -/
theorem moved_other (h : Moved s s' k f g) (htype : e.resourceType ≠ "MANDATE") :
    Moved s (s'.audit e) k f g := by
  refine h.aside ?_
  show (if e.resourceType = "MANDATE" then some e.resourceId else none) = none
  rw [if_neg htype]

/-- Where the mandate moves as its events say, or is not stored. -/
theorem determined_of_moved (h : Moved s s' k f g) (hs : Determined s)
    (hagree : ∀ m, s.mandates.find? k = some m → g (position m) = f (position m)) :
    Determined s' := by
  rw [determined_iff] at hs ⊢
  refine (h.tells_iff hs).mpr fun p hp => ?_
  obtain ⟨m, hm, rfl⟩ := Option.map_eq_some_iff.mp hp
  exact hagree m hm

theorem determined_of_same (h : Moved s s' k f f) (hs : Determined s) : Determined s' :=
  determined_of_moved h hs fun _ _ => rfl

end Moves

/-! ### Dispatch -/

section Operations

variable {env : Platform} {settings : Settings} {s : Store}

/-- What a dispatch moves. -/
def dispatchStored (attempt : Except String Dispatched) (amount : ℤ) : Position → Position :=
  match attempt with
  | .ok .notDispatched => id
  | .ok (.executing _) => id
  | .ok (.settled _) => Position.shift (-amount) amount
  | .error _ => Position.shift (-amount) 0

/-- What the events of a dispatch say. -/
def dispatchTold (attempt : Except String Dispatched) (amount : ℤ) : Position → Position :=
  match attempt with
  | .ok _ => id
  | .error _ => Position.shift (-amount) 0

theorem dispatchStored_zero (attempt : Except String Dispatched) : dispatchStored attempt 0 = id := by
  match attempt with
  | .ok .notDispatched => rfl
  | .ok (.executing _) => rfl
  | .ok (.settled _) => exact Position.shift_zero
  | .error _ => exact Position.shift_zero

theorem dispatchTold_zero (attempt : Except String Dispatched) : dispatchTold attempt 0 = id := by
  match attempt with
  | .ok _ => rfl
  | .error _ => exact Position.shift_zero

theorem executeGatewayOperation_moved (env : Platform) (gateway : GatewayAnswers)
    (mandate : Mandate) (operation : FinancialOperation) (payload : Dict) (s : Store) :
    Moved s (executeGatewayOperation env gateway mandate operation payload s).store mandate.id
      (dispatchStored (attemptGateway env gateway operation payload).2 operation.amount)
      (dispatchTold (attemptGateway env gateway operation payload).2 operation.amount) := by
  unfold executeGatewayOperation
  match hattempt : (attemptGateway env gateway operation payload).2 with
  | .ok .notDispatched =>
    simp only [hattempt]
    exact moved_quiet rfl rfl
  | .ok (.executing tx) =>
    simp only [hattempt]
    exact moved_quiet rfl rfl
  | .ok (.settled tx) =>
    simp only [hattempt]
    have hbefore : Moved s ((s.addTransaction tx).updateOperation operation.id
        (.moveTo .succeeded)) mandate.id id id := moved_quiet rfl rfl
    refine hbefore.trans (moved_update _ fun m => ?_)
    simp [position, Mandate.commitDispatched, Position.shift, sub_eq_add_neg]
  | .error text =>
    simp only [hattempt]
    have hrelease : Moved s (s.updateMandate mandate.id (Mandate.release operation.amount))
        mandate.id (Position.shift (-operation.amount) 0) id :=
      moved_update _ fun m => by simp [position, Mandate.release, Position.shift, sub_eq_add_neg]
    have hstatus : Moved s ((s.updateMandate mandate.id
        (Mandate.release operation.amount)).updateOperation operation.id
          (.moveToWith .failed (some text))) mandate.id (Position.shift (-operation.amount) 0) id :=
      hrelease.trans (moved_quiet rfl rfl)
    refine moved_audit (t := Position.shift (-operation.amount) 0) hstatus rfl rfl fun p => ?_
    simp [enterEvent, releaseAudit, amountUnder, dictGet]

/-- A reservation, and the status that goes with it. -/
theorem reserve_moved {s₁ : Store} {mandateId operationId : String} {amount : ℤ}
    {f : FinancialOperation → FinancialOperation} {hf : ∀ op, Keyed.key (f op) = Keyed.key op}
    (h : reserveBudget s mandateId amount = some s₁) :
    Moved s (s₁.updateOperation operationId f hf) mandateId (Position.shift amount 0) id := by
  obtain ⟨rfl, -⟩ := reserveBudget_eq_some h
  have hreserved : Moved s (s.updateMandate mandateId (Mandate.reserve amount)) mandateId
      (Position.shift amount 0) id :=
    moved_update _ fun m => by simp [position, Mandate.reserve, Position.shift]
  exact hreserved.trans (moved_quiet rfl rfl)

/-- **A reservation with its event, and the dispatch**: recorded unless the gateway settles the
operation at once. -/
theorem reserved_moved {s₁ : Store} {gateway : GatewayAnswers} {mandate : Mandate}
    {operation : FinancialOperation} {payload : Dict}
    (h : reserveBudget s mandate.id operation.amount = some s₁) :
    Moved s (executeGatewayOperation env gateway mandate (operation.moveTo .reserved) payload
        ((s₁.updateOperation operation.id (.moveTo .reserved)).audit
          (reserveAudit mandate operation))).store mandate.id
      (dispatchStored (attemptGateway env gateway (operation.moveTo .reserved) payload).2
        operation.amount ∘ Position.shift operation.amount 0)
      (dispatchTold (attemptGateway env gateway (operation.moveTo .reserved) payload).2
        operation.amount ∘ Position.shift operation.amount 0) := by
  have hreserved : Moved s ((s₁.updateOperation operation.id (.moveTo .reserved)).audit
      (reserveAudit mandate operation)) mandate.id (Position.shift operation.amount 0)
        (Position.shift operation.amount 0 ∘ id) := by
    refine moved_audit (reserve_moved h) rfl rfl fun p => ?_
    simp [enterEvent, reserveAudit, amountUnder, dictGet]
  exact hreserved.trans (executeGatewayOperation_moved env gateway mandate _ payload _)

/-- The gateway accepts the operation and settles it at once, which only a refund can be. -/
def SettledAtOnce (env : Platform) (gateway : GatewayAnswers) (operation : FinancialOperation)
    (payload : Dict) : Prop :=
  ∃ tx, (attemptGateway env gateway operation payload).2 = .ok (.settled tx)

theorem refund_of_settledAtOnce {gateway : GatewayAnswers} {operation : FinancialOperation}
    {payload : Dict} (h : SettledAtOnce env gateway operation payload) :
    operation.operationType = .createRefund := by
  obtain ⟨tx, h⟩ := h
  have hend := attemptGateway_end h
  generalize (attemptGateway env gateway operation payload).1 = calls at hend
  cases hend with
  | refunded htype => exact htype

theorem dispatch_agrees {gateway : GatewayAnswers} {operation : FinancialOperation} {payload : Dict}
    (h : ¬ SettledAtOnce env gateway operation payload) (amount : ℤ) :
    dispatchTold (attemptGateway env gateway operation payload).2 amount =
      dispatchStored (attemptGateway env gateway operation payload).2 amount := by
  match hattempt : (attemptGateway env gateway operation payload).2 with
  | .ok .notDispatched => rfl
  | .ok (.executing tx) => rfl
  | .ok (.settled tx) => exact absurd ⟨tx, hattempt⟩ h
  | .error text => rfl

/-- The operation a permitted request dispatches. -/
def dispatchedOperation (env : Platform) (payload : OperationCreate) (inputs : RequestInputs)
    (result : PolicyEvaluationResult) : FinancialOperation :=
  (withDetails result (newOperation env payload inputs)).moveTo .reserved

/-- A request that is permitted is not a refund that the gateway settles at once. -/
def RequestRecorded (env : Platform) (settings : Settings) (s : Store) (payload : OperationCreate)
    (headers : CallerHeaders) (inputs : RequestInputs) : Prop :=
  ∀ agent mandate result, Permitted env settings s payload headers inputs agent mandate →
    evaluate env (requestEvaluation inputs) agent mandate (newOperation env payload inputs) =
      .ok result →
    ¬ SettledAtOnce env inputs.gateway (dispatchedOperation env payload inputs result)
      payload.payload

/-- **A request** keeps the trail, unless it is such a refund. -/
theorem request_determined {payload : OperationCreate} {headers : CallerHeaders}
    {inputs : RequestInputs} {c : Committed FinancialOperation}
    (h : requestFinancialOperation env settings payload headers inputs s = .ok c)
    (hs : Determined s) (hrecorded : RequestRecorded env settings s payload headers inputs) :
    Determined c.store := by
  rcases request_returned h with ⟨existingOp, -, rfl⟩ | ⟨agent, mandate, s₁, result, hev, rfl⟩
  · exact hs
  · obtain ⟨-, -, -, -, -, -, hmandates⟩ := LedgerView.ledger_insertOperation hev.inserted
    have haudits := LedgerView.insertOperation_audits hev.inserted
    have hevaluated : Moved s (recordEvaluation payload (newOperation env payload inputs) result s₁)
        mandate.id id id :=
      moved_other (moved_quiet hmandates haudits) operation_ne_mandate
    generalize hs₂ : recordEvaluation payload (newOperation env payload inputs) result s₁ = s₂
      at hevaluated ⊢
    have hs₂m : s₂.mandates = s.mandates := by rw [← hs₂, ← hmandates]; rfl
    unfold actOnDecision
    split
    · exact determined_of_same (hevaluated.trans (moved_quiet rfl rfl)) hs
    · exact determined_of_same (hevaluated.trans (moved_quiet rfl rfl)) hs
    · rename_i hallow
      split
      · exact determined_of_same (hevaluated.trans (moved_quiet rfl rfl)) hs
      · rename_i s₃ hreserve
        obtain ⟨-, m, hm, hroom⟩ := reserveBudget_eq_some hreserve
        have hkey : mandate.id = payload.mandateId := Table.key_of_find? hev.mandateFound
        rw [hs₂m, hkey, hev.mandateFound] at hm
        cases hm
        have hpermitted : Permitted env settings s payload headers inputs agent mandate :=
          ⟨hev.authenticated, hev.fresh, hev.mandateFound, hev.agentFound, ⟨s₁, hev.inserted⟩,
            ⟨result, hev.evaluated, hallow⟩, hroom⟩
        have hsettled := hrecorded agent mandate result hpermitted hev.evaluated
        have hmoved := hevaluated.trans (@reserved_moved env s₂ s₃ inputs.gateway mandate
          (withDetails result (newOperation env payload inputs)) payload.payload hreserve)
        refine determined_of_moved hmoved hs fun m _ => ?_
        exact congrFun (dispatch_agrees hsettled _) _

/-- An approval that is granted room approves an amount of zero, which no request can have asked
for: the reservation leaves no event about the mandate. -/
def ApprovalRecorded (s : Store) (operationId : String) (approval : HumanApprovalRequest) : Prop :=
  ∀ op mandate, Granted s operationId approval op mandate → op.amount = 0

/-- **An approval** keeps the trail as long as it reserves nothing. -/
theorem approval_determined {operationId : String} {approval : HumanApprovalRequest}
    {gateway : GatewayAnswers} {c : Committed FinancialOperation}
    (h : humanApproveOperation env operationId approval gateway s = .ok c) (hs : Determined s)
    (hrecorded : ApprovalRecorded s operationId approval) : Determined c.store := by
  obtain ⟨op, mandate, hrow, hstatus, hmandate, hdone⟩ := approval_returned h
  have hkey : mandate.id = op.mandateId := Table.key_of_find? hmandate
  cases hdone with
  | declined =>
    have hrejected : Moved s (s.updateOperation op.id _) mandate.id id id := moved_quiet rfl rfl
    exact determined_of_same (moved_other hrejected operation_ne_mandate) hs
  | exhausted => exact determined_of_same (moved_quiet rfl rfl : Moved s _ mandate.id id id) hs
  | @granted s₁ done happroved hreserve hdone =>
    subst hdone
    obtain ⟨-, m, hm, hroom⟩ := reserveBudget_eq_some hreserve
    rw [hkey, hmandate] at hm
    cases hm
    have hzero := hrecorded op mandate ⟨hrow, hstatus, happroved, hmandate, hroom⟩
    have hmoved := (moved_other (reserve_moved hreserve) operation_ne_mandate).trans
      (executeGatewayOperation_moved env gateway mandate (grantApproval approval.approvedById op)
        op.payload ((s₁.updateOperation op.id (grantApproval approval.approvedById)).audit
          (approvalAudit .humanApprovalGranted approval (grantApproval approval.approvedById op)
            [("approved_by", .str approval.approvedById), ("amount", .int op.amount)])))
    refine determined_of_moved hmoved hs fun m _ => ?_
    have hamount : (grantApproval approval.approvedById op).amount = 0 := hzero
    rw [hamount, hzero, dispatchStored_zero, dispatchTold_zero, Position.shift_zero]

/-- **A verification** records what it moves. -/
theorem verification_determined {operationId : String} {payload : PaymentVerifyRequest}
    {c : Committed PaymentVerified}
    (h : verifyPayment env settings operationId payload s = .ok c) (hs : Determined s) :
    Determined c.store := by
  obtain ⟨row, hrow, h⟩ := bind_eq_ok.mp h
  obtain ⟨op, hop, h⟩ := bind_eq_ok.mp h
  obtain ⟨isValid, hvalid, h⟩ := bind_eq_ok.mp h
  obtain ⟨_, htrue, h⟩ := bind_eq_ok.mp h
  obtain ⟨tx, htx, h⟩ := bind_eq_ok.mp h
  cases h
  have hcommitted := moved_update (s := s) (k := op.mandateId)
    (f := Position.shift (-op.amount) op.amount) (F := Mandate.commitReserved op.amount)
    (fun _ => key_kept rfl) fun m => by
      simp [position, Mandate.commitReserved, Position.shift, sub_eq_add_neg]
  have hrecorded := moved_audit (t := Position.shift (-op.amount) op.amount)
    (e := commitAudit op) hcommitted rfl rfl fun p => by
      simp [enterEvent, commitAudit, amountUnder, dictGet]
  have hpayment (s : Store) : Moved s ((recordPayment op payload.razorpayPaymentId tx
      s).updateOperation op.id (.moveTo .succeeded)) op.mandateId id id := by
    cases tx with
    | none => exact moved_quiet rfl rfl
    | some _ => exact moved_quiet rfl rfl
  exact determined_of_same
    (moved_other (hrecorded.trans (hpayment _)) operation_ne_mandate) hs

end Operations

/-! ### Deliveries -/

section Deliveries

variable {env : Platform} {settings : Settings} {s s' : Store} {op : FinancialOperation}

/-- The reservation of the operation's mandate covers the amount, or there is nothing to cover. -/
def Covers (s : Store) (op : FinancialOperation) : Prop :=
  ∀ mandate, s.mandates.find? op.mandateId = some mandate → mandate.reservedSpend < op.amount →
    op.amount = 0

theorem captureBudget_moved (op : FinancialOperation) (s : Store) :
    ∃ f, Moved s (captureBudget op s).1 op.mandateId f id ∧
      ∀ m, s.mandates.find? op.mandateId = some m → Covers s op →
        f = Position.shift (-op.amount) op.amount := by
  unfold captureBudget
  split
  · rename_i hnone
    refine ⟨id, moved_quiet rfl rfl, fun m hm => ?_⟩
    rw [hnone] at hm
    cases hm
  · rename_i mandate hmandate
    rw [show mandate.id = op.mandateId from Table.key_of_find? hmandate]
    split
    · refine ⟨_, moved_update _ fun m => ?_, fun _ _ _ => rfl⟩
      simp [position, Mandate.commitReserved, Position.shift, sub_eq_add_neg]
    · rename_i hlow
      refine ⟨Position.shift 0 op.amount, moved_update _ fun m => ?_, fun m hm hcovers => ?_⟩
      · simp [position, Mandate.commitUnreserved, Position.shift]
      · rw [hcovers mandate hmandate (not_le.mp hlow), neg_zero]

theorem failureBudget_moved (op : FinancialOperation) (s : Store) :
    ∃ f, Moved s (failureBudget op s).1 op.mandateId f id ∧
      ∀ m, s.mandates.find? op.mandateId = some m → Covers s op →
        f = Position.shift (-op.amount) 0 := by
  unfold failureBudget
  split
  · rename_i hnone
    refine ⟨id, moved_quiet rfl rfl, fun m hm => ?_⟩
    rw [hnone] at hm
    cases hm
  · rename_i mandate hmandate
    rw [show mandate.id = op.mandateId from Table.key_of_find? hmandate]
    split
    · refine ⟨_, moved_update _ fun m => ?_, fun _ _ _ => rfl⟩
      simp [position, Mandate.release, Position.shift, sub_eq_add_neg]
    · rename_i hlow
      refine ⟨id, moved_quiet rfl rfl, fun m hm hcovers => ?_⟩
      rw [hcovers mandate hmandate (not_le.mp hlow), neg_zero, Position.shift_zero]

/-- **A settlement by webhook**: the budget write, then the event with the whole amount. -/
theorem settlement_determined {budget : Store} {f t : Position → Position}
    {g : FinancialOperation → FinancialOperation} {hg : ∀ r, Keyed.key (g r) = Keyed.key r}
    {p : Transaction → Bool} {h : Transaction → Transaction} {action : AuditAction}
    {status : OperationStatus} {eventType orderId : String} (hs : Determined s)
    (hbudget : Moved s budget op.mandateId f id)
    (hsame : ∀ m, s.mandates.find? op.mandateId = some m → f = t)
    (henter : ∀ known, enterEvent (settlementAudit action op status eventType orderId) (some known) =
      some (t known)) :
    Determined (((budget.updateOperation op.id g hg).updateTransactions p h).audit
      (settlementAudit action op status eventType orderId)) := by
  have hquiet : Moved budget ((budget.updateOperation op.id g hg).updateTransactions p h)
      op.mandateId id id := moved_quiet rfl rfl
  have hmoved := moved_audit (t := t) (hbudget.trans hquiet)
    (e := settlementAudit action op status eventType orderId) rfl rfl henter
  refine determined_of_moved hmoved hs fun m hm => ?_
  rw [hsame m hm]
  rfl

theorem capture_determined {eventType orderId : String} {gatewayPaymentId : Option String}
    (hs : Determined s) (hcovers : Covers s op) :
    Determined (capture op eventType orderId gatewayPaymentId s).1 := by
  obtain ⟨f, hmoved, hsame⟩ := captureBudget_moved op s
  refine settlement_determined hs hmoved (fun m hm => hsame m hm hcovers) fun known => ?_
  simp [enterEvent, settlementAudit, amountUnder, dictGet, List.lookup_cons]

theorem failPayment_determined {eventType orderId : String} {errorMessage : Option String}
    (hs : Determined s) (hcovers : Covers s op) :
    Determined (failPayment op eventType orderId errorMessage s).1 := by
  obtain ⟨f, hmoved, hsame⟩ := failureBudget_moved op s
  refine settlement_determined hs hmoved (fun m hm => hsame m hm hcovers) fun known => ?_
  simp [enterEvent, settlementAudit, amountUnder, dictGet, List.lookup_cons]

/-- A processed refund that takes nothing off. -/
theorem refund_determined {mandate : Mandate} (hs : Determined s)
    (hmandate : s.mandates.find? mandate.id = some mandate) :
    Determined (s.updateMandate mandate.id
      (Mandate.withCommitted mandate.currentAggregateSpend)) := by
  have hsame : s.mandates.modify mandate.id (Mandate.withCommitted mandate.currentAggregateSpend)
        (fun _ => key_kept rfl) =
      s.mandates.modify mandate.id (fun m => { m with version := m.version + 1 })
        (fun _ => key_kept rfl) := Table.modify_congr hmandate rfl
  have hmoved : Moved s (s.updateMandate mandate.id fun m => { m with version := m.version + 1 })
      mandate.id id id := moved_update _ fun _ => rfl
  have hdone := determined_of_same hmoved hs
  unfold Store.updateMandate at hdone ⊢
  rw [hsame]
  exact hdone

/-- **Where an event leaves a trail**: a capture or failure that settles an operation in flight
finds its amount covered, a refund takes nothing off. -/
structure EventRecorded (env : Platform) (s : Store) (eventType : String) (payload : Json) :
    Prop where
  captured : ∀ refs orderId tx op paymentId, eventType = "order.paid" ∨ eventType = "payment.captured" →
    capturedReferences payload = .ok refs →
    Resolved env s refs.1 s.transactionsByOrder orderId tx op → op.status.inFlight = true →
    capturedPaymentId env refs.2 tx = .ok paymentId → Covers s op
  failed : ∀ refs orderId tx op message, eventType = "payment.failed" →
    failedReferences payload = .ok refs →
    Resolved env s refs.2 s.transactionsByOrder orderId tx op → op.status.inFlight = true →
    failureMessage env refs.1 = .ok message → Covers s op
  refunded : ∀ refs paymentId tx op mandate committed, eventType = "refund.processed" →
    refundReferences payload = .ok refs →
    Resolved env s refs.1 s.transactionsByPayment paymentId tx op →
    s.mandates.find? op.mandateId = some mandate →
    env.minus mandate.currentAggregateSpend refs.2 = .ok committed →
    committed = mandate.currentAggregateSpend

/-- The event of a delivery that is accepted leaves a trail. -/
def DeliveryRecorded (env : Platform) (settings : Settings) (s : Store)
    (delivery : WebhookDelivery) : Prop :=
  ∀ eventData eventType eventId payload,
    Accepted env settings delivery s eventData (.str eventType) eventId →
    eventData.get "payload" (.obj []) = .ok payload → EventRecorded env s eventType payload

theorem resolved_withRecords {records : Table WebhookEvent} {reference : Json}
    {rows : String → List Transaction} {id : String} {tx : Transaction}
    (h : Resolved env (withRecords s records) reference rows id tx op) :
    Resolved env s reference rows id tx op := ⟨h.truthy, h.text, h.unique, h.found⟩

/-- **A delivery** keeps the trail where its event leaves one. -/
theorem delivery_determined {delivery : WebhookDelivery} {events : List Event}
    (h : Delivered env settings delivery s events s') (hs : Determined s)
    (hrecorded : DeliveryRecorded env settings s delivery) : Determined s' := by
  cases h with
  | recorded records => exact hs
  | @processed eventData eventType eventId records done haccepted hdone records' =>
    have hbefore : Determined (withRecords s records) := hs
    show Determined done.1
    cases hdone with
    | ignored => exact hs
    | captured htype hpayload hrefs hresolved hflight hpayment =>
      exact capture_determined hbefore ((hrecorded _ _ _ _ haccepted hpayload).captured _ _ _ _ _
        htype hrefs (resolved_withRecords hresolved) hflight hpayment)
    | failed htype hpayload hrefs hresolved hflight hmessage =>
      exact failPayment_determined hbefore ((hrecorded _ _ _ _ haccepted hpayload).failed _ _ _ _ _
        htype hrefs (resolved_withRecords hresolved) hflight hmessage)
    | refunded hpayload hrefs hresolved hmandate hminus =>
      have hsame := (hrecorded _ _ _ _ haccepted hpayload).refunded _ _ _ _ _ _ rfl hrefs
        (resolved_withRecords hresolved) hmandate hminus
      rw [hsame]
      refine refund_determined hbefore ?_
      exact Table.find?_of_mem (Table.mem_of_find? hmandate)

end Deliveries

/-! ### Sweeps -/

section Sweeps

variable {inputs : SweepInputs} {op : FinancialOperation} {s : Store}

theorem releaseStuck_determined (message reason : String) (hs : Determined s) :
    Determined (releaseStuck op message reason s).1 := by
  have hstatus : Moved s (s.updateOperation op.id (.moveToWith .failed (some message)))
      op.mandateId id id := moved_quiet rfl rfl
  have hreleased := hstatus.trans (moved_update (f := Position.shift (-op.amount) 0)
    (F := Mandate.release op.amount) (fun _ => key_kept rfl) fun m => by
      simp [position, Mandate.release, Position.shift, sub_eq_add_neg])
  refine determined_of_same (moved_audit (t := Position.shift (-op.amount) 0) hreleased rfl rfl
    fun p => ?_) hs
  simp [enterEvent, workerAudit, amountUnder, dictGet]

theorem commitStuck_determined (orderId : String) (hs : Determined s) :
    Determined (commitStuck op orderId s).1 := by
  have hstatus : Moved s ((s.updateOperation op.id (.moveTo .succeeded)).updateTransactions
      (fun tx => tx.operationId = op.id) (fun tx => { tx with status := .captured }))
      op.mandateId id id := moved_quiet rfl rfl
  have hcommitted := hstatus.trans (moved_update (f := Position.shift (-op.amount) op.amount)
    (F := Mandate.commitReserved op.amount) (fun _ => key_kept rfl) fun m => by
      simp [position, Mandate.commitReserved, Position.shift, sub_eq_add_neg])
  refine determined_of_same (moved_audit (t := Position.shift (-op.amount) op.amount) hcommitted
    rfl rfl fun p => ?_) hs
  simp [enterEvent, workerAudit, amountUnder, dictGet]

theorem reconcileOperations_determined {ops : List FinancialOperation}
    {done : Store × List Event} (h : reconcileOperations inputs ops s = .ok done)
    (hs : Determined s) : Determined done.1 := by
  induction ops generalizing s done with
  | nil =>
    cases h
    exact hs
  | cons op ops ih =>
    obtain ⟨first, hfirst, h⟩ := bind_eq_ok.mp h
    obtain ⟨rest, hrest, h⟩ := bind_eq_ok.mp h
    cases h
    show Determined rest.1
    refine ih hrest ?_
    rcases reconcileOperation_spec hfirst with rfl | ⟨message, reason, rfl⟩ | ⟨orderId, rfl⟩
    · exact hs
    · exact releaseStuck_determined message reason hs
    · exact commitStuck_determined orderId hs

/-- **A sweep** records what it moves. -/
theorem sweep_determined {c : Committed ℕ} (h : reconcileStuckReservations inputs s = .ok c)
    (hs : Determined s) : Determined c.store := by
  obtain ⟨swept, hswept, h⟩ := bind_eq_ok.mp h
  cases h
  exact reconcileOperations_determined hswept hs

end Sweeps

/-! ### Mandates -/

section Mandates

variable {s : Store} {id : String} {m : Mandate}

/-- **A new mandate** starts its trail, whatever events were there under its id. -/
theorem insert_determined {mandates : Table Mandate} {e : AuditEvent} (hs : Determined s)
    (hinsert : s.mandates.insert m = some mandates) (hposition : position m = ⟨0, 0, m.status.value⟩)
    (haction : e.action = .mandateCreated) (htype : e.resourceType = "MANDATE")
    (hid : e.resourceId = m.id) (hstate : statusIn e.newState = m.status.value) :
    Determined ({ s with mandates }.audit e) := by
  rw [determined_iff] at hs ⊢
  have hstored : (mandates.find? m.id).map position = some (position m) := by
    have hself : mandates.find? m.id = some m := Table.find?_insert_self hinsert
    rw [hself, Option.map_some]
  refine hs.start hstored (fun k hk => ?_) ?_ fun known => ?_
  · show (mandates.find? k).map position = (s.mandates.find? k).map position
    rw [Table.find?_insert hinsert, if_neg]
    exact hk
  · show (if e.resourceType = "MANDATE" then some e.resourceId else none) = some m.id
    rw [if_pos htype, hid]
  · show enterEvent e known = some (position m)
    rw [enterEvent, haction, hposition]
    dsimp only
    rw [hstate]

/-- What the cascade writes to one mandate it records. -/
theorem cascadeOne_determined {rootId reason currId : String} {status : MandateStatus}
    (hs : Determined s) : Determined (cascadeOne rootId status reason currId s) := by
  unfold cascadeOne
  split
  · exact hs
  · rename_i m hm
    have hkey : m.id = currId := Table.key_of_find? hm
    have hmoved := moved_update (s := s) (k := currId) (f := Position.withStatus status.value)
      (F := withStatus status reason) (fun _ => key_kept rfl) fun _ => rfl
    refine determined_of_same (moved_audit (t := Position.withStatus status.value) hmoved rfl hkey
      fun p => ?_) hs
    have hstate : statusIn (cascadeAudit rootId status reason m).newState = status.value := by
      simp [statusIn, cascadeAudit, dictGet]
    unfold enterEvent
    rw [hstate]
    by_cases hrevoked : status = .revoked
    · simp [cascadeAudit, hrevoked]
    · simp [cascadeAudit, hrevoked]

theorem cascadeLoop_determined {rootId reason : String} {status : MandateStatus} {fuel : ℕ}
    {queue visited : List String} {s' : Store}
    (h : cascadeLoop rootId status reason fuel queue visited s = some s') (hs : Determined s) :
    Determined s' := by
  induction fuel generalizing queue visited s with
  | zero =>
    cases queue with
    | nil =>
      cases h
      exact hs
    | cons currId queue => cases h
  | succ fuel ih =>
    cases queue with
    | nil =>
      cases h
      exact hs
    | cons currId queue => exact ih h (cascadeOne_determined hs)

/-- **Suspensions and revocations** record every mandate they reach. -/
theorem cascade_determined {status : MandateStatus} {defaultReason : String} {reason : Option String}
    {c : Committed Mandate} (h : changeStatusCascade status defaultReason id reason s = .ok c)
    (hs : Determined s) : Determined c.store := by
  obtain ⟨mandate, -, h⟩ := bind_eq_ok.mp h
  obtain ⟨s', hloop, h⟩ := bind_eq_ok.mp h
  rw [orRefuse_eq_ok] at hloop
  cases h
  exact cascadeLoop_determined hloop hs

/-- An activation that goes through is of a mandate that is ACTIVE: it leaves no event. -/
def ActivationRecorded (s : Store) (id : String) : Prop :=
  ∀ m, s.mandates.find? id = some m → inactiveParent s.mandates m = false → m.status = .active

theorem activation_determined (hs : Determined s) (hm : s.mandates.find? id = some m)
    (hactive : m.status = .active) : Determined (s.updateMandate id reactivated) := by
  have hmoved := moved_update (s := s) (k := id) (f := Position.withStatus "ACTIVE")
    (F := reactivated) (fun _ => key_kept rfl) fun _ => rfl
  refine determined_of_moved hmoved hs fun m' hm' => ?_
  rw [hm] at hm'
  cases hm'
  simp [position, Position.withStatus, hactive, MandateStatus.value]

end Mandates

/-! ### Runs -/

section Runs

variable {env : Platform} {settings : Settings} {s : Store} {a : Action}

/-- **Recorded**: the step leaves an event for every sum and status it moves. -/
def Recorded (env : Platform) (settings : Settings) (s : Store) : Action → Prop
  | .request payload headers inputs => RequestRecorded env settings s payload headers inputs
  | .approve operationId approval _ _ => ApprovalRecorded s operationId approval
  | .webhook delivery => DeliveryRecorded env settings s delivery
  | .activate mandateId => ActivationRecorded s mandateId
  | .verify _ _ => True
  | .sweep _ => True
  | .create _ _ _ => True
  | .delegate _ _ _ _ => True
  | .suspend _ _ => True
  | .revoke _ _ => True
  | .agentStatus _ _ _ => True

/-- **One step** that is recorded keeps the trail. -/
theorem determined_step (hs : Determined s) (hrecorded : Recorded env settings s a) :
    Determined ((controlPlane env settings).next s a) := by
  show Determined (perform env settings s a).1
  cases a with
  | request payload headers inputs =>
    rcases outcome_cases s (requestFinancialOperation env settings payload headers inputs s) with
      h | ⟨c, hc, h⟩ <;> rw [perform, h]
    · exact hs
    · exact request_determined hc hs hrecorded
  | approve operationId approval now gateway =>
    rcases outcome_cases s (humanApproveOperation env operationId approval gateway s) with
      h | ⟨c, hc, h⟩ <;> rw [perform, h]
    · exact hs
    · exact approval_determined hc hs hrecorded
  | verify operationId payload =>
    rcases outcome_cases s (verifyPayment env settings operationId payload s) with
      h | ⟨c, hc, h⟩ <;> rw [perform, h]
    · exact hs
    · exact verification_determined hc hs
  | webhook delivery =>
    rcases outcome_cases s (handleRazorpayWebhook env settings delivery s) with
      h | ⟨c, hc, h⟩ <;> rw [perform, h]
    · exact hs
    · exact delivery_determined (handleRazorpayWebhook_spec hc) hs hrecorded
  | sweep inputs =>
    rcases outcome_cases s (reconcileStuckReservations inputs s) with
      h | ⟨c, hc, h⟩ <;> rw [perform, h]
    · exact hs
    · exact sweep_determined hc hs
  | create payload id now =>
    rcases outcome_cases s (createMandate env payload id.text now s) with
      h | ⟨c, hc, h⟩ <;> rw [perform, h]
    · exact hs
    · obtain ⟨agent, mandates, hinsert, hstore, -⟩ := createMandate_spec hc
      show Determined c.store
      rw [hstore]
      exact insert_determined hs hinsert rfl rfl rfl rfl
        (by simp [statusIn, createdAudit, dictGet])
  | delegate parentId payload id now =>
    rcases outcome_cases s (delegateChildMandate env parentId payload id.text now s) with
      h | ⟨c, hc, h⟩ <;> rw [perform, h]
    · exact hs
    · obtain ⟨parent, currency, mandates, -, -, -, -, hinsert, hstore, -⟩ :=
        delegateChildMandate_spec hc
      have hallocated : Determined (s.updateMandate parentId (allocate payload.aggregateSpendLimit)) :=
        determined_of_same (moved_update (f := fun p => p) _ fun _ => rfl) hs
      show Determined c.store
      rw [hstore]
      exact insert_determined (s := s.updateMandate parentId (allocate payload.aggregateSpendLimit))
        hallocated hinsert rfl rfl rfl rfl (by simp [statusIn, delegatedAudit, dictGet])
  | suspend mandateId reason =>
    rcases outcome_cases s (suspendMandateCascade mandateId reason s) with
      h | ⟨c, hc, h⟩ <;> rw [perform, h]
    · exact hs
    · exact cascade_determined hc hs
  | revoke mandateId reason =>
    rcases outcome_cases s (revokeMandateCascade mandateId reason s) with
      h | ⟨c, hc, h⟩ <;> rw [perform, h]
    · exact hs
    · exact cascade_determined hc hs
  | activate mandateId =>
    rcases outcome_cases s (activateMandate mandateId s) with h | ⟨c, hc, h⟩ <;> rw [perform, h]
    · exact hs
    · obtain ⟨mandate, hmandate, hc⟩ := bind_eq_ok.mp hc
      obtain ⟨_, hparent, hc⟩ := bind_eq_ok.mp hc
      rw [orRefuse_eq_ok] at hmandate
      rw [ensure_eq_ok] at hparent
      cases hc
      exact activation_determined hs hmandate (hrecorded mandate hmandate (by simpa using hparent))
  | agentStatus agentId status reason =>
    rcases outcome_cases s (updateAgentStatus agentId status reason s) with
      h | ⟨c, hc, h⟩ <;> rw [perform, h]
    · exact hs
    · obtain ⟨agent, -, hc⟩ := bind_eq_ok.mp hc
      cases hc
      have hagent : Moved s { s with agents := s.agents.modify agentId fun a => { a with status } }
          "" id id := moved_quiet rfl rfl
      exact determined_of_same (moved_other hagent agent_ne_mandate) hs

end Runs

/-- **The audit trail determines the ledger** in every state of a run whose steps are all recorded,
from any store in which it does, such as one without mandates. -/
theorem trail_determines_ledger (env : Platform) (settings : Settings) (s : Store)
    (hs : Determined s) (actions : List Action)
    (h : (controlPlane env settings).Along (Recorded env settings) s actions) :
    (controlPlane env settings).Throughout Determined s actions :=
  Machine.throughout_of_inv (fun _ _ hs hrecorded => determined_step hs hrecorded) hs h

/-! ### From the first mandate on -/

section Issued

open Sample

/-- The agent of before, without a mandate. -/
def unissued : Store := { store with mandates := .empty }

def issue (reviewThresholdAmount : Option ℤ)
    (threshold_pos : ∀ threshold ∈ reviewThresholdAmount, 0 < threshold) : Action :=
  .create
    { agentId := "agt_1"
      grantedById := "prn_1"
      currency := "INR"
      maxAmountPerOp := 1000
      aggregateSpendLimit := 1000
      reviewThresholdAmount
      allowedOperations := []
      policyConfig := []
      validUntil := ⟨1000, some 0⟩
      max_pos := thousand_pos
      limit_pos := thousand_pos
      threshold_pos }
    ⟨"mnd_1", mandate_1_named⟩ ⟨0, some 0⟩

/-- An order, its payment and a suspension, all of them recorded. -/
theorem trail_of_requestA_verifyA :
    (controlPlane platform settings).Throughout Determined unissued
      [issue none (by simp), requestA, verifyA, .suspend "mnd_1" none] := by
  refine trail_determines_ledger platform settings unissued (by decide +kernel) _
    ⟨trivial, fun agent mandate result _ _ hsettled => ?_, trivial, trivial, trivial⟩
  have hrefund := refund_of_settledAtOnce hsettled
  cases hrefund

theorem fiveHundred_pos : ∀ threshold ∈ some (500 : ℤ), 0 < threshold := by
  rintro threshold ⟨⟩
  decide

/-- **An approval leaves no event of its reservation**: 600 are reserved, and by the trail nothing
is. -/
theorem trail_misses_approval :
    Determined unissued ∧ ¬ (controlPlane platform settings).Throughout Determined unissued
      [issue (some 500) fiveHundred_pos, requestA, approve "operation_A" "order_A" 600 true] := by
  decide +kernel

end Issued

end MandatePlane.AuditTrail

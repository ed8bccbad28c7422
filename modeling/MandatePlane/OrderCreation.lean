import MandatePlane.HandlerPostings
import MandatePlane.OperationSessions
import MandatePlane.TransactionLinks

/-!
# Sessions that create an order

Two endpoints dispatch to the gateway, the request of an operation and the approval of a
parked one.  Both take the operation's row, call the gateway, insert the transaction and
commit, in this order, so the gateway knows the order before anybody else sees the
operation's transaction.
-/

namespace MandatePlane.OrderCreation

open DomainModel KeyedTable JsonValue LedgerView HostEnvironment RazorpayClient OperationRoutes
open HandlerPostings TransactionLinks ControlPlane ReadCommitted OperationSessions

/-! ### The order in the store -/

/-- Columns that no lookup depends on. -/
def Keeps (f : Store → Store) : Prop := ∀ s, orders (f s) = orders s ∧ links (f s) = links s

theorem Keeps.comp {f g : Store → Store} (hf : Keeps f) (hg : Keeps g) : Keeps (g ∘ f) :=
  fun s => ⟨(hg (f s)).1.trans (hf s).1, (hg (f s)).2.trans (hf s).2⟩

theorem keeps_id : Keeps id := fun _ => ⟨rfl, rfl⟩

def Stored (id : String) (s : Store) : Prop := ∃ op, s.operations.find? id = some op

theorem stored_of_orders {id : String} {s s' : Store} (h : orders s' = orders s)
    (hs : Stored id s) : Stored id s' := by
  obtain ⟨op, hop⟩ := hs
  have horder : (orders s').find? id = some (orderOf op) := by
    rw [h, orders_find?, hop]
    rfl
  rw [orders_find?] at horder
  obtain ⟨op', hop', -⟩ := Option.map_eq_some_iff.mp horder
  exact ⟨op', hop'⟩

/-- No transaction carries the order. -/
def OrderFree (order : String) (s : Store) : Prop := ∀ link ∈ links s, link.2 ≠ some order

/-- The order belongs to one transaction, that of the operation, and the operation is stored. -/
structure HasOrder (order id : String) (s : Store) : Prop where
  link : (links s).filter (fun link => link.2 = some order) = [(id, some order)]
  stored : Stored id s

theorem hasOrder_of_keeps {order id : String} {f : Store → Store} (hf : Keeps f) {s : Store}
    (h : HasOrder order id s) : HasOrder order id (f s) :=
  ⟨by rw [(hf s).2, h.link], stored_of_orders (hf s).1 h.stored⟩

/-- What a lookup by the order's id finds. -/
theorem HasOrder.rows {order id : String} {s : Store} (h : HasOrder order id s) :
    ∃ tx, s.transactionsByOrder order = [tx] ∧ tx.operationId = id := by
  have hlink := h.link
  have hfilter : (links s).filter (fun link => link.2 = some order) =
      (s.transactionsByOrder order).map linkOf := by
    rw [links, List.filter_map]
    rfl
  rw [hfilter] at hlink
  obtain ⟨tx, hrows, hsame⟩ := List.map_eq_singleton_iff.mp hlink
  exact ⟨tx, hrows, congrArg Prod.fst hsame⟩

/-- An insert depends on the orders alone. -/
theorem insertOperation_of_orders {s s' t : Store} {op : FinancialOperation}
    (h : orders s' = orders s) (hi : s.insertOperation op = some t) :
    ∃ t', s'.insertOperation op = some t' := by
  obtain ⟨hfree, operations, hoperations, -⟩ := Store.insertOperation_eq_some_iff.mp hi
  have hfree' : ∀ r ∈ s'.operations.rows,
      r.operationId ≠ op.operationId ∧ r.idempotencyKey ≠ op.idempotencyKey := by
    intro r hr
    obtain ⟨r₀, hr₀, he⟩ := mem_of_orders h hr
    have hid : r₀.operationId = r.operationId := congrArg (·.operationId) he
    have hkey : r₀.idempotencyKey = r.idempotencyKey := congrArg (·.idempotencyKey) he
    rw [← hid, ← hkey]
    exact hfree r₀ hr₀
  cases hinsert : s'.operations.insert op with
  | some operations' =>
    exact ⟨_, Store.insertOperation_eq_some_iff.mpr ⟨hfree', operations', hinsert, rfl⟩⟩
  | none =>
    obtain ⟨r, hr⟩ := Table.insert_eq_none_iff.mp hinsert
    obtain ⟨r₀, hr₀⟩ := stored_of_orders h.symm ⟨r, hr⟩
    have hnone : s.operations.find? (Keyed.key op) = none :=
      (Table.insert_eq_some_iff.mp hoperations).1
    rw [hnone] at hr₀
    cases hr₀

/-- A row that could be inserted is stored wherever the orders are the same. -/
theorem stored_insertRow {s s' t : Store} {op : FinancialOperation}
    (hi : s.insertOperation op = some t) (h : orders s' = orders s) :
    links (insertRow op s') = links s' ∧ Stored op.id (insertRow op s') := by
  obtain ⟨t', ht'⟩ := insertOperation_of_orders h hi
  have hrow : insertRow op s' = t' := by
    rw [insertRow, ht']
    rfl
  obtain ⟨-, -, hfind, -, -, htransactions, -⟩ := ledger_insertOperation ht'
  rw [hrow]
  exact ⟨congrArg (List.map linkOf) htransactions, op, hfind⟩

/-! ### The call -/

/-- The gateway creates the order at this call. -/
def CreatesAt (gateway : GatewayAnswers) (order : String) (call : GatewayCall) : Prop :=
  (∃ answer, gateway.createOrder = .ok answer ∧ answer.id = order) ∧
    ∃ amount currency receipt notes, call = .createOrder amount currency receipt notes

/-- An attempt that created an order inserts its transaction. -/
theorem attemptGateway_creates {env : Platform} {gateway : GatewayAnswers} {order : String}
    {op : FinancialOperation} {payload : Dict} {call : GatewayCall}
    (hcall : call ∈ (attemptGateway env gateway op payload).1)
    (hcreates : CreatesAt gateway order call) :
    ∃ tx, (attemptGateway env gateway op payload).2 = .ok (.executing tx) ∧
      linkOf tx = (op.id, some order) := by
  obtain ⟨⟨answer, hanswer, hid⟩, amount, currency, receipt, notes, rfl⟩ := hcreates
  unfold attemptGateway at hcall ⊢
  split at hcall
  · rename_i htype
    unfold attemptOrder at hcall ⊢
    split at hcall
    · cases hcall
    · rw [hanswer, ← hid]
      exact ⟨_, rfl, rfl⟩
  · unfold attemptPaymentLink at hcall
    split at hcall
    · cases hcall
    · rename_i link hlink
      obtain ⟨description, -, hlink⟩ := bind_eq_ok.mp hlink
      obtain ⟨name, -, hlink⟩ := bind_eq_ok.mp hlink
      obtain ⟨email, -, hlink⟩ := bind_eq_ok.mp hlink
      obtain ⟨contact, -, hlink⟩ := bind_eq_ok.mp hlink
      cases hlink
      cases List.mem_singleton.mp hcall
  · unfold attemptRefund at hcall
    dsimp only at hcall
    split at hcall
    · split at hcall
      · cases hcall
      · cases List.mem_singleton.mp hcall
    · cases hcall
  · cases hcall
  · cases hcall

/-! ### The program -/

inductive Creator where
  | request (call : RequestCall)
  | approval (call : ApprovalCall)

def Creator.gateway : Creator → GatewayAnswers
  | request call => call.inputs.gateway
  | approval call => call.gateway

inductive CreatorPoint where
  | request (p : RequestPoint)
  | approval (p : ApprovalPoint)

def Creator.start : Creator → CreatorPoint
  | request _ => .request .authenticate
  | approval _ => .approval .read

def creatorCode (env : Platform) (settings : Settings) :
    Creator → CreatorPoint → Stmt Store Row Event CreatorPoint
  | .request call, .request p => (requestCode env settings call p).map .request
  | .approval call, .approval p => (approvalCode env call p).map .approval
  | .request _, .approval _ => .stop
  | .approval _, .request _ => .stop

/-- The endpoint has answered. -/
def Finished : CreatorPoint → Prop
  | .request (.returned _) => True
  | .request (.refused _) => True
  | .approval (.returned _) => True
  | .approval (.refused _) => True
  | _ => False

instance (p : CreatorPoint) : Decidable (Finished p) := by
  unfold Finished
  split <;> infer_instance

/-- How far a session has got with its dispatch. -/
inductive Progress where
  /-- the operation's row is not yet taken, or the session was refused -/
  | early
  | holding (id : String)
  | called (op : FinancialOperation) (payload : Dict)
  | ready
  | closed

def requestProgress (call : RequestCall) : RequestPoint → Progress
  | .decide _ _ => .holding call.inputs.id
  | .lost op _ => .holding op.id
  | .reserved _ op _ => .holding op.id
  | .dispatch _ op => .holding op.id
  | .settle _ op => .called op call.payload.payload
  | .finish _ => .ready
  | .returned _ => .closed
  | _ => .early

def approvalProgress : ApprovalPoint → Progress
  | .dispatch _ op => .holding op.id
  | .settle _ op => .called op op.payload
  | .finish _ => .ready
  | .returned _ => .closed
  | _ => .early

def progress : Creator → CreatorPoint → Progress
  | .request call, .request p => requestProgress call p
  | .approval _, .approval p => approvalProgress p
  | .request _, .approval _ => .early
  | .approval _, .request _ => .early

/-- The operation an approval goes on with was stored when the session began. -/
def Proper (s₀ : Store) : CreatorPoint → Prop
  | .approval (.loadMandate op) => Stored op.id s₀
  | .approval (.reject op) => Stored op.id s₀
  | .approval (.reserve _ op) => Stored op.id s₀
  | .approval (.exhausted op) => Stored op.id s₀
  | .approval (.grant _ op) => Stored op.id s₀
  | _ => True

/-- No call to the gateway. -/
def Quiet (events : List Event) : Prop := ∀ op call, Event.gatewayCall op call ∉ events

/-- Everything a statement can do, with the rows it takes, its writes and what it emits. -/
inductive Advance (env : Platform) (gateway : GatewayAnswers) (s₀ : Store) (rows : List Row) :
    Progress → (Store → Store) → List Event → Progress → Prop
  | onward {write : Store → Store} {events : List Event} {next : Progress} (hkeeps : Keeps write)
      (hquiet : Quiet events) (hnext : next = .early ∨ next = .ready) :
      Advance env gateway s₀ rows .early write events next
  | answered : Advance env gateway s₀ rows .early id [] .closed
  | held {id : String} {write : Store → Store} (hlock : .operation id ∈ rows)
      (hwrite : ∀ s, orders s = orders s₀ → links (write s) = links s ∧ Stored id (write s)) :
      Advance env gateway s₀ rows .early write [] (.holding id)
  | worked {id : String} {write : Store → Store} {events : List Event} {next : Progress}
      (hkeeps : Keeps write) (hquiet : Quiet events)
      (hnext : next = .holding id ∨ next = .ready) :
      Advance env gateway s₀ rows (.holding id) write events next
  | called {op : FinancialOperation} {payload : Dict} :
      Advance env gateway s₀ rows (.holding op.id) id
        ((attemptGateway env gateway op payload).1.map (Event.gatewayCall op)) (.called op payload)
  | executed {mandate : Mandate} {op : FinancialOperation} {payload : Dict} :
      Advance env gateway s₀ rows (.called op payload)
        (fun s => (executeGatewayOperation env gateway mandate op payload s).store)
        (settlementEvents op (attemptGateway env gateway op payload).2) .ready

section Statements

variable {env : Platform} {settings : Settings} {s₀ s : Store}

theorem quiet_nil : Quiet [] := fun _ _ => List.not_mem_nil

/-- Evaluations, statuses and counters are columns that no lookup depends on. -/
theorem keeps_recordEvaluation {payload : OperationCreate} {op : FinancialOperation}
    {result : PolicyEvaluationResult} {id : String}
    {f : FinancialOperation → FinancialOperation} {hf : ∀ op, Keyed.key (f op) = Keyed.key op}
    (h : ∀ op, orderOf (f op) = orderOf op) :
    Keeps fun s => (recordEvaluation payload op result s).updateOperation id f hf := by
  intro s
  refine ⟨?_, rfl⟩
  rw [orders_columns _ h]
  simp only [recordEvaluation, orders_audit, orders_withDetails]

theorem request_ran {call : RequestCall} {p : RequestPoint} {rows : Store → List Row}
    {run : Store → Effect Store Event RequestPoint}
    (hbase : requestProgress call p = .early → orders s = orders s₀)
    (hcode : requestCode env settings call p = .exec rows run) :
    Advance env call.inputs.gateway s₀ (rows s) (requestProgress call p) (run s).write
      (run s).emits (requestProgress call (run s).next) := by
  have hlook {next : RequestPoint} (h : requestProgress call next = .early) :
      Advance env call.inputs.gateway s₀ (rows s) .early id [] (requestProgress call next) :=
    .onward keeps_id quiet_nil (.inl h)
  cases p with
  | authenticate =>
    cases hcode
    dsimp only
    split <;> exact hlook rfl
  | lookUp =>
    cases hcode
    dsimp only
    split
    · exact hlook rfl
    · exact .answered
    · exact hlook rfl
  | lockMandate =>
    cases hcode
    dsimp only
    split <;> exact .onward keeps_id quiet_nil (.inl rfl)
  | loadAgent mandate =>
    cases hcode
    dsimp only
    split <;> exact hlook rfl
  | insert mandate agent =>
    cases hcode
    dsimp only
    split
    · exact .onward keeps_id quiet_nil (.inl rfl)
    · rename_i t hinsert
      refine .held (by simp [newOperation]) fun s' hs' => ?_
      exact stored_insertRow hinsert (hs'.trans (hbase rfl).symm)
  | decide mandate agent =>
    simp only [requestCode] at hcode
    split at hcode
    · cases hcode
    · rename_i result hresult
      unfold actStatement at hcode
      dsimp only at hcode
      split at hcode
      · cases hcode
        refine .worked ?_ (by simp [Quiet]) (.inr rfl)
        exact keeps_recordEvaluation (f := .moveToWith .policyRejected _) fun _ => rfl
      · cases hcode
        refine .worked ?_ (by simp [Quiet]) (.inr rfl)
        exact keeps_recordEvaluation (f := .moveToWith .requiresApproval _) fun _ => rfl
      · cases hcode
        dsimp only
        split
        · exact .worked keeps_id (by simp [Quiet]) (.inl rfl)
        · exact .worked (fun _ => ⟨rfl, rfl⟩) (by simp [Quiet]) (.inl rfl)
  | lost op result =>
    cases hcode
    refine .worked ?_ (by simp [Quiet]) (.inr rfl)
    exact keeps_recordEvaluation (f := lostReservation result) fun _ => rfl
  | reserved mandate op result =>
    cases hcode
    have hkeeps : Keeps fun s => (recordEvaluation call.payload
        (newOperation env call.payload call.inputs) result s).updateOperation op.id
          (.moveTo .reserved) := keeps_recordEvaluation fun _ => rfl
    exact .worked (fun s => hkeeps s) quiet_nil (.inl rfl)
  | dispatch mandate op =>
    cases hcode
    exact .called
  | settle mandate op =>
    cases hcode
    exact .executed
  | finish _ => cases hcode
  | returned _ => cases hcode
  | raised _ => cases hcode
  | refused _ => cases hcode

theorem keeps_rejectRow (call : ApprovalCall) (op : FinancialOperation) :
    Keeps (rejectRow call op) := by
  intro s
  refine ⟨?_, rfl⟩
  unfold rejectRow
  rw [orders_audit, orders_moveToWith]

theorem keeps_grantRow (call : ApprovalCall) (op : FinancialOperation) :
    Keeps (grantRow call op) := by
  intro s
  refine ⟨?_, rfl⟩
  unfold grantRow
  rw [orders_audit, orders_grantApproval]

theorem approval_ran {call : ApprovalCall} {p : ApprovalPoint} {rows : Store → List Row}
    {run : Store → Effect Store Event ApprovalPoint}
    (hbase : approvalProgress p = .early → orders s = orders s₀)
    (hproper : Proper s₀ (.approval p)) (hcode : approvalCode env call p = .exec rows run) :
    Advance env call.gateway s₀ (rows s) (approvalProgress p) (run s).write (run s).emits
        (approvalProgress (run s).next) ∧ Proper s₀ (.approval (run s).next) := by
  have hlook {next : ApprovalPoint} (h : approvalProgress next = .early) :
      Advance env call.gateway s₀ [] .early id [] (approvalProgress next) :=
    .onward keeps_id quiet_nil (.inl h)
  cases p with
  | read =>
    cases hcode
    dsimp only
    split
    · exact ⟨hlook rfl, trivial⟩
    · exact ⟨hlook rfl, trivial⟩
    · rename_i op hop
      split
      · obtain ⟨hfind, -⟩ := Store.find?_of_operationByOperationId hop
        exact ⟨hlook rfl, stored_of_orders (hbase rfl).symm ⟨op, hfind⟩⟩
      · exact ⟨hlook rfl, trivial⟩
  | loadMandate op =>
    cases hcode
    dsimp only
    split
    · exact ⟨hlook rfl, trivial⟩
    · split
      · exact ⟨hlook rfl, hproper⟩
      · exact ⟨hlook rfl, hproper⟩
  | reject op =>
    cases hcode
    exact ⟨.onward (keeps_rejectRow call op) (by simp [Quiet]) (.inr rfl), trivial⟩
  | reserve mandate op =>
    cases hcode
    dsimp only
    split
    · exact ⟨.onward keeps_id quiet_nil (.inl rfl), hproper⟩
    · exact ⟨.onward (fun _ => ⟨rfl, rfl⟩) (by simp [Quiet]) (.inl rfl), hproper⟩
  | exhausted op =>
    cases hcode
    refine ⟨.onward (fun s => ⟨?_, rfl⟩) (by simp [Quiet]) (.inr rfl), trivial⟩
    exact orders_moveToWith s op.id .policyRejected _ _
  | grant mandate op =>
    cases hcode
    refine ⟨.held (List.mem_singleton_self _) fun s' hs' => ?_, trivial⟩
    obtain ⟨horders, hlinks⟩ := keeps_grantRow call op s'
    exact ⟨hlinks, stored_of_orders (horders.trans hs') hproper⟩
  | dispatch mandate op =>
    cases hcode
    exact ⟨.called, trivial⟩
  | settle mandate op =>
    cases hcode
    exact ⟨.executed, trivial⟩
  | finish _ => cases hcode
  | returned _ => cases hcode
  | raised _ => cases hcode
  | refused _ => cases hcode

variable {creator : Creator} {p next : CreatorPoint} {rows : Store → List Row}

/-- **A statement of either endpoint.** -/
theorem creator_ran {run : Store → Effect Store Event CreatorPoint}
    (hbase : progress creator p = .early → orders s = orders s₀) (hproper : Proper s₀ p)
    (hcode : creatorCode env settings creator p = .exec rows run) :
    Advance env creator.gateway s₀ (rows s) (progress creator p) (run s).write (run s).emits
        (progress creator (run s).next) ∧ Proper s₀ (run s).next := by
  cases creator with
  | request call =>
    cases p with
    | request p =>
      obtain ⟨run', hcode', rfl⟩ := Stmt.map_eq_exec hcode
      exact ⟨request_ran hbase hcode', trivial⟩
    | approval p => cases hcode
  | approval call =>
    cases p with
    | request p => cases hcode
    | approval p =>
      obtain ⟨run', hcode', rfl⟩ := Stmt.map_eq_exec hcode
      exact approval_ran hbase hproper hcode'

theorem creatorCode_commit (hcode : creatorCode env settings creator p = .commit next) :
    progress creator p = .ready ∧ progress creator next = .closed ∧ ¬ Finished p ∧
      Proper s₀ next := by
  cases creator with
  | request call =>
    cases p with
    | request p =>
      obtain ⟨q, hcode', rfl⟩ := Stmt.map_eq_commit hcode
      obtain ⟨op, rfl, rfl⟩ := requestCode_commit hcode'
      exact ⟨rfl, rfl, id, trivial⟩
    | approval p => cases hcode
  | approval call =>
    cases p with
    | request p => cases hcode
    | approval p =>
      obtain ⟨q, hcode', rfl⟩ := Stmt.map_eq_commit hcode
      obtain ⟨op, rfl, rfl⟩ := approvalCode_commit hcode'
      exact ⟨rfl, rfl, id, trivial⟩

/-- A rollback refuses the call before the gateway has been asked. -/
theorem creatorCode_rollback (hcode : creatorCode env settings creator p = .rollback next) :
    (progress creator p = .early ∨ ∃ id, progress creator p = .holding id) ∧
      progress creator next = .early ∧ ¬ Finished p ∧ Proper s₀ next := by
  cases creator with
  | request call =>
    cases p with
    | approval p => cases hcode
    | request p =>
      obtain ⟨q, hcode', rfl⟩ := Stmt.map_eq_rollback hcode
      obtain ⟨⟨refusal, rfl⟩, ⟨mandate, agent, rfl⟩ | ⟨refusal', rfl⟩⟩ := requestCode_rollback hcode'
      · exact ⟨.inr ⟨_, rfl⟩, rfl, id, trivial⟩
      · exact ⟨.inl rfl, rfl, id, trivial⟩
  | approval call =>
    cases p with
    | request p => cases hcode
    | approval p =>
      obtain ⟨q, hcode', rfl⟩ := Stmt.map_eq_rollback hcode
      obtain ⟨refusal, rfl, rfl⟩ := approvalCode_rollback hcode'
      exact ⟨.inl rfl, rfl, id, trivial⟩

/-- No statement of either endpoint skips locked rows. -/
theorem creatorCode_grab {run : List Row → Store → Effect Store Event CreatorPoint} :
    creatorCode env settings creator p ≠ .grab rows run := by
  intro hcode
  cases creator with
  | request call =>
    cases p with
    | request p =>
      obtain ⟨run', hcode', -⟩ := Stmt.map_eq_grab hcode
      exact requestCode_grab hcode'
    | approval p => cases hcode
  | approval call =>
    cases p with
    | request p => cases hcode
    | approval p =>
      obtain ⟨run', hcode', -⟩ := Stmt.map_eq_grab hcode
      exact approvalCode_grab hcode'

/-- An endpoint that has answered is at rest. -/
theorem creatorCode_finished (h : Finished p) : creatorCode env settings creator p = .stop := by
  cases creator with
  | request call =>
    cases p with
    | request p => cases p <;> first | rfl | exact absurd h id
    | approval p => rfl
  | approval call =>
    cases p with
    | request p => rfl
    | approval p => cases p <;> first | rfl | exact absurd h id

/-- An endpoint that has answered has committed or was refused. -/
theorem progress_finished (h : Finished p) :
    progress creator p = .closed ∨ progress creator p = .early := by
  cases creator with
  | request call =>
    cases p with
    | request p => cases p <;> first | exact .inl rfl | exact .inr rfl | exact absurd h id
    | approval p => exact .inr rfl
  | approval call =>
    cases p with
    | request p => exact .inr rfl
    | approval p => cases p <;> first | exact .inl rfl | exact .inr rfl | exact absurd h id

end Statements

end MandatePlane.OrderCreation

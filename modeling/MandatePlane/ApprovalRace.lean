import MandatePlane.HandlerPostings
import MandatePlane.OperationSessions

/-!
# Decisions on one operation that race

Any number of approvals and rejections of one parked operation run interleaved.  Each
reads the operation without a lock and writes it later without asking again, so a call
that has read REQUIRES_APPROVAL goes on when another call has decided in between.

As long as no statement of a decision is taken after another decision has been
committed, the operation is reserved, dispatched and decided once: the mandate's row
admits one reservation at a time and the operation's row one decision.
-/

namespace MandatePlane.ApprovalRace

open DomainModel KeyedTable LabelledRun LedgerView HostEnvironment HandlerPostings
open OperationRoutes RazorpayClient ControlPlane ReadCommitted OperationSessions

/-! ### The operation in the store -/

section Rows

variable (s₀ : Store) (asked : FinancialOperation)

/-- The operation waits for its approval; nothing has been requested since. -/
structure Parked (s : Store) : Prop where
  orders : orders s = orders s₀
  status : ∃ row, s.operations.find? asked.id = some row ∧ row.status = .requiresApproval

/-- The operation has been decided on; nothing has been requested since. -/
structure Decided (s : Store) : Prop where
  orders : orders s = orders s₀
  status : ∃ row, s.operations.find? asked.id = some row ∧ row.status ≠ .requiresApproval

variable {s₀ asked} {s : Store} {op : FinancialOperation}

/-- The row is there as long as the orders are. -/
theorem find?_of_orders (hfound : s₀.operations.find? asked.id = some asked)
    (h : orders s = orders s₀) : ∃ row, s.operations.find? asked.id = some row := by
  have horder : (orders s).find? asked.id = some (orderOf asked) := by
    rw [h, orders_find?, hfound]
    rfl
  rw [orders_find?] at horder
  obtain ⟨row, hrow, -⟩ := Option.map_eq_some_iff.mp horder
  exact ⟨row, hrow⟩

/-- A lookup by the operation's public id finds its row, whatever has become of it. -/
theorem orderOf_of_lookup {operationId : String}
    (hfound : s₀.operationByOperationId operationId = .ok (some asked))
    (h : orders s = orders s₀) (hop : s.operationByOperationId operationId = .ok (some op)) :
    orderOf op = orderOf asked := by
  obtain ⟨hself, hid⟩ := Store.find?_of_operationByOperationId hop
  obtain ⟨r₀, hr₀, he⟩ := mem_of_orders h (Table.mem_of_find? hself)
  have hm : r₀ ∈ s₀.operations.rows.filter fun op => op.operationId = operationId := by
    have hrid : r₀.operationId = op.operationId := congrArg (·.operationId) he
    rw [List.mem_filter]
    exact ⟨hr₀, decide_eq_true (hrid.trans hid)⟩
  rw [scalarOneOrFail_eq_ok.mp hfound] at hm
  rw [← he, List.mem_singleton.mp hm]

/-- A write of another status. -/
theorem decided_updateOperation (hfound : s₀.operations.find? asked.id = some asked)
    (h : orders s = orders s₀) {id : String} (hid : id = asked.id)
    {f : FinancialOperation → FinancialOperation} {hf : ∀ op, Keyed.key (f op) = Keyed.key op}
    (horder : ∀ op, orderOf (f op) = orderOf op)
    (hstatus : ∀ op, (f op).status ≠ .requiresApproval) :
    Decided s₀ asked (s.updateOperation id f hf) := by
  subst hid
  obtain ⟨row, hrow⟩ := find?_of_orders hfound h
  refine ⟨(orders_columns s horder).trans h, f row, ?_, hstatus row⟩
  show (s.operations.modify asked.id f hf).find? asked.id = some (f row)
  rw [Table.find?_modify_self, hrow]
  rfl

/-- The gateway execution leaves a decision a decision. -/
theorem decided_executeGatewayOperation (hfound : s₀.operations.find? asked.id = some asked)
    (h : Decided s₀ asked s) (hid : op.id = asked.id) (env : Platform) (gateway : GatewayAnswers)
    (mandate : Mandate) (payload : JsonValue.Dict) :
    Decided s₀ asked (executeGatewayOperation env gateway mandate op payload s).store := by
  unfold executeGatewayOperation
  cases hattempt : (attemptGateway env gateway op payload).2 with
  | error text =>
    simp only [hattempt]
    have hwritten := @decided_updateOperation _ _
      (s.updateMandate mandate.id (Mandate.release op.amount)) hfound h.orders _ hid
      (.moveToWith .failed (some text)) (fun _ => key_kept rfl) (fun _ => rfl)
      fun _ hparked => by cases hparked
    exact ⟨hwritten.orders, hwritten.status⟩
  | ok dispatched =>
    cases dispatched with
    | notDispatched =>
      simp only [hattempt]
      exact h
    | executing tx =>
      simp only [hattempt]
      exact @decided_updateOperation _ _ (s.addTransaction tx) hfound h.orders _ hid
        (.moveTo .executing) (fun _ => key_kept rfl) (fun _ => rfl)
        fun _ hparked => by cases hparked
    | settled tx =>
      simp only [hattempt]
      have hwritten := @decided_updateOperation _ _ (s.addTransaction tx) hfound h.orders _ hid
        (.moveTo .succeeded) (fun _ => key_kept rfl) (fun _ => rfl)
        fun _ hparked => by cases hparked
      exact ⟨hwritten.orders, hwritten.status⟩

end Rows

/-! ### One decision -/

section Call

/-- Nothing written yet, or refused. -/
def Before (call : ApprovalCall) (asked : FinancialOperation) : ApprovalPoint → Prop
  | .read => True
  | .loadMandate op => orderOf op = orderOf asked
  | .reject op => orderOf op = orderOf asked ∧ call.approval.approved = false
  | .reserve mandate op => orderOf op = orderOf asked ∧ call.approval.approved = true ∧
      mandate.id = asked.mandateId
  | .raised _ => True
  | .refused _ => True
  | _ => False

/-- Between the reservation and the commit, with the reservations and the calls made so far. -/
def Reserving (asked : FinancialOperation) (reservations calls : ℕ) : ApprovalPoint → Prop
  | .exhausted op => orderOf op = orderOf asked ∧ reservations = 0 ∧ calls = 0
  | .grant _ op => orderOf op = orderOf asked ∧ reservations ≤ 1 ∧ calls = 0
  | .dispatch _ op => orderOf op = orderOf asked ∧ reservations ≤ 1 ∧ calls = 0
  | .settle _ op => orderOf op = orderOf asked ∧ reservations ≤ 1 ∧ calls ≤ 1
  | .finish _ => reservations ≤ 1 ∧ calls ≤ 1
  | _ => False

/-- The operation a statement decides on. -/
def decides : ApprovalPoint → Option FinancialOperation
  | .reject op => some op
  | .reserve _ op => some op
  | .exhausted op => some op
  | .grant _ op => some op
  | _ => none

/-- Once the operation's row has been written. -/
def Written : ApprovalPoint → Prop
  | .dispatch _ _ => True
  | .settle _ _ => True
  | .finish _ => True
  | _ => False

variable {env : Platform} {call : ApprovalCall} {asked op : FinancialOperation} {s₀ s : Store}
  {p : ApprovalPoint} {rows : Store → List Row} {run : Store → Effect Store Event ApprovalPoint}

/-- What a statement before the decision can do: go on, reject, or try to reserve. -/
inductive BeforeStep (call : ApprovalCall) (asked : FinancialOperation) (s : Store) :
    ApprovalPoint → List Row → Effect Store Event ApprovalPoint → Prop
  | onward {p next : ApprovalPoint} (h : Before call asked next) :
      BeforeStep call asked s p [] ⟨id, [], next⟩
  | rejected {op answer : FinancialOperation} (horder : orderOf op = orderOf asked)
      (hrejected : call.approval.approved = false) :
      BeforeStep call asked s (.reject op) [.operation asked.id]
        ⟨rejectRow call op, [.posted op .policyRejected 0 0], .finish answer⟩
  | exhausted {op : FinancialOperation} {mandate : Mandate} (horder : orderOf op = orderOf asked)
      (happroved : call.approval.approved = true) :
      BeforeStep call asked s (.reserve mandate op) [.mandate asked.mandateId]
        ⟨id, [], .exhausted op⟩
  | reserved {op : FinancialOperation} {mandate : Mandate} {write : Store → Store}
      (horder : orderOf op = orderOf asked) (happroved : call.approval.approved = true)
      (hwrite : orders (write s) = orders s) :
      BeforeStep call asked s (.reserve mandate op) [.mandate asked.mandateId]
        ⟨write, [.posted op .reserved op.amount 0], .grant mandate op⟩

theorem before_ran (hfound : s₀.operationByOperationId call.operationId = .ok (some asked))
    (hsame : orders s = orders s₀) (hcode : approvalCode env call p = .exec rows run)
    (hb : Before call asked p) : BeforeStep call asked s p (rows s) (run s) := by
  cases p with
  | read =>
    cases hcode
    dsimp only
    split
    · exact .onward trivial
    · exact .onward trivial
    · rename_i op hop
      split
      · exact .onward (orderOf_of_lookup hfound hsame hop)
      · exact .onward trivial
  | loadMandate op =>
    cases hcode
    dsimp only
    split
    · exact .onward trivial
    · rename_i mandate hmandate
      have hto : op.mandateId = asked.mandateId := congrArg (·.mandateId) hb
      split
      · rename_i happroved
        exact .onward ⟨hb, happroved, (Table.key_of_find? hmandate).trans hto⟩
      · rename_i hrejected
        exact .onward ⟨hb, Bool.eq_false_of_not_eq_true hrejected⟩
  | reject op =>
    obtain ⟨horder, hrejected⟩ := hb
    have hid : op.id = asked.id := congrArg (·.id) horder
    cases hcode
    rw [hid]
    exact .rejected horder hrejected
  | reserve mandate op =>
    obtain ⟨horder, happroved, hmandate⟩ := hb
    cases hcode
    rw [hmandate]
    dsimp only
    split
    · exact .exhausted horder happroved
    · exact .reserved horder happroved (orders_updateMandate _ _ _ _)
  | raised _ => cases hcode
  | refused _ => cases hcode
  | exhausted _ => cases hb
  | grant _ _ => cases hb
  | dispatch _ _ => cases hb
  | settle _ _ => cases hb
  | finish _ => cases hb
  | returned _ => cases hb

/-- **A statement of the call that holds the mandate.**  It goes on with the operation as it was
requested, and takes the operation's row with the first write to it. -/
theorem reserving_ran {n m : ℕ} (hfound : s₀.operations.find? asked.id = some asked)
    (hsame : orders s = orders s₀) (hdecided : Written p → Decided s₀ asked s)
    (hcode : approvalCode env call p = .exec rows run) (hr : Reserving asked n m p) :
    Reserving asked (n + (run s).emits.countP isReservation) (m + (run s).emits.countP isCall)
        (run s).next ∧
      Decided s₀ asked ((run s).write s) ∧
      (Written p ∨ .operation asked.id ∈ rows s) := by
  cases p with
  | exhausted op =>
    obtain ⟨horder, rfl, rfl⟩ := hr
    have hid : op.id = asked.id := congrArg (·.id) horder
    cases hcode
    refine ⟨⟨Nat.zero_le _, Nat.zero_le _⟩, ?_, .inr ?_⟩
    · exact decided_updateOperation hfound hsame hid (fun _ => rfl) (fun _ => nofun)
    · rw [hid]
      exact List.mem_singleton_self _
  | grant mandate op =>
    obtain ⟨horder, hn, rfl⟩ := hr
    have hid : op.id = asked.id := congrArg (·.id) horder
    cases hcode
    refine ⟨⟨horder, hn, rfl⟩, ?_, .inr ?_⟩
    · have hwritten := @decided_updateOperation _ _ s hfound hsame _ hid
        (grantApproval call.approval.approvedById) (fun _ => key_kept rfl) (fun _ => rfl)
        (fun _ => nofun)
      exact ⟨hwritten.orders, hwritten.status⟩
    · rw [hid]
      exact List.mem_singleton_self _
  | dispatch mandate op =>
    obtain ⟨horder, hn, rfl⟩ := hr
    cases hcode
    obtain ⟨hreservations, hcalls⟩ := calls_count op
      (attemptGateway env call.gateway op op.payload).1
    refine ⟨⟨horder, ?_, ?_⟩, hdecided trivial, .inl trivial⟩
    · rw [hreservations]
      exact hn
    · rw [hcalls, Nat.zero_add]
      exact attemptGateway_calls _ _ _ _
  | settle mandate op =>
    obtain ⟨horder, hn, hm⟩ := hr
    have hid : op.id = asked.id := congrArg (·.id) horder
    cases hcode
    obtain ⟨hreservations, hcalls⟩ := settlementEvents_count op
      (attemptGateway env call.gateway op op.payload).2
    refine ⟨⟨?_, ?_⟩, ?_, .inl trivial⟩
    · rw [hreservations]
      exact hn
    · rw [hcalls]
      exact hm
    · exact decided_executeGatewayOperation hfound (hdecided trivial) hid _ _ _ _
  | finish _ => cases hcode
  | read => cases hr
  | loadMandate _ => cases hr
  | reject _ => cases hr
  | reserve _ _ => cases hr
  | returned _ => cases hr
  | raised _ => cases hr
  | refused _ => cases hr

end Call

/-! ### All decisions on the operation -/

section Phases

variable {ι : Type*} [DecidableEq ι]

section Definitions

variable (calls : ι → ApprovalCall) (s₀ : Store) (asked : FinancialOperation)
  (w : World ι Row Store ApprovalPoint)

/-- A call that has written nothing. -/
def Fresh (i : ι) : Prop := (w.session i).writes = id ∧ Before (calls i) asked (w.session i).point

/-- A rejection that has only its commit before it. -/
structure Rejecting (i : ι) : Prop where
  lock : w.owner (.operation asked.id) = some i
  rejected : (calls i).approval.approved = false
  point : ∃ op, (w.session i).point = .finish op
  decided : Decided s₀ asked (w.view i)

/-- The call that holds the mandate's row. -/
structure Holder (n m : ℕ) (k : ι) : Prop where
  lock : w.owner (.mandate asked.mandateId) = some k
  approved : (calls k).approval.approved = true
  orders : orders (w.view k) = orders s₀
  stage : Reserving asked n m (w.session k).point
  written : Written (w.session k).point →
    w.owner (.operation asked.id) = some k ∧ Decided s₀ asked (w.view k)

/-- A call that another decision has overtaken. -/
def Halted (i : ι) : Prop :=
  Fresh calls asked w i ∨ ∃ op, orderOf op = orderOf asked ∧
    ((w.session i).point = .exhausted op ∨ ∃ mandate, (w.session i).point = .grant mandate op)

/-- **The three phases** of the decisions on an operation. -/
inductive Phase (trace : List (ι × Event)) : Prop
  | undecided (hparked : Parked s₀ asked w.committed)
      (hall : ∀ i, Fresh calls asked w i ∨ Rejecting calls s₀ asked w i)
      (hfree : w.owner (.mandate asked.mandateId) = none)
      (hreservations : reservations trace = 0) (hcalls : gatewayCalls trace = 0)
  | reserving (k : ι) (hparked : Parked s₀ asked w.committed)
      (hholder : Holder calls s₀ asked w (reservations trace) (gatewayCalls trace) k)
      (hothers : ∀ i, i ≠ k → Fresh calls asked w i ∨ Rejecting calls s₀ asked w i)
  | decided (k : ι) (hdecided : Decided s₀ asked w.committed)
      (hreturned : ∃ op, (w.session k).point = .returned op)
      (hothers : ∀ i, i ≠ k → Halted calls asked w i)
      (hreservations : reservations trace ≤ 1) (hcalls : gatewayCalls trace ≤ 1)
      (hrejected : (calls k).approval.approved = false → gatewayCalls trace = 0)

/-- No statement of a decision is taken once another decision has been committed. -/
def StillParked (i : ι) : Prop :=
  ∀ op, decides (w.session i).point = some op →
    ∃ row, w.committed.operations.find? op.id = some row ∧ row.status = .requiresApproval

instance : Decidable (StillParked w i) :=
  decidable_of_iff
    (∀ op ∈ decides (w.session i).point,
      ∃ row ∈ w.committed.operations.find? op.id, row.status = .requiresApproval)
    Iff.rfl

end Definitions

variable {env : Platform} {calls : ι → ApprovalCall} {s₀ : Store} {asked : FinancialOperation}
  {trace labels : List (ι × Event)} {w w' : World ι Row Store ApprovalPoint} {i j k : ι}
  {rows : List Row} {e : Effect Store Event ApprovalPoint} {next : ApprovalPoint} {n m : ℕ}

/-! What the turns of others leave as it is. -/

theorem Rejecting.advance (h : Rejecting calls s₀ asked w j) (hj : j ≠ i)
    (hfree : ∀ k ∈ rows, w.Available i k) :
    Rejecting calls s₀ asked (w.advance i rows e) j := by
  refine ⟨advance_owner_kept h.lock hfree, h.rejected, ?_, ?_⟩
  · rw [advance_session_of_ne hj]
    exact h.point
  · rw [advance_view_of_ne hj]
    exact h.decided

theorem quiet_advance (h : Fresh calls asked w j ∨ Rejecting calls s₀ asked w j) (hj : j ≠ i)
    (hfree : ∀ k ∈ rows, w.Available i k) :
    Fresh calls asked (w.advance i rows e) j ∨ Rejecting calls s₀ asked (w.advance i rows e) j := by
  rcases h with h | h
  · unfold Fresh
    rw [advance_session_of_ne hj]
    exact .inl h
  · exact .inr (h.advance hj hfree)

theorem Holder.advance (h : Holder calls s₀ asked w n m k) (hk : k ≠ i)
    (hfree : ∀ k ∈ rows, w.Available i k) :
    Holder calls s₀ asked (w.advance i rows e) n m k := by
  refine ⟨advance_owner_kept h.lock hfree, h.approved, ?_, ?_, ?_⟩
  · rw [advance_view_of_ne hk]
    exact h.orders
  · rw [advance_session_of_ne hk]
    exact h.stage
  · rw [advance_session_of_ne hk, advance_view_of_ne hk]
    exact fun hw => ⟨advance_owner_kept (h.written hw).1 hfree, (h.written hw).2⟩

theorem quiet_discard (h : Fresh calls asked w j ∨ Rejecting calls s₀ asked w j) (hj : j ≠ i) :
    Fresh calls asked (w.discard i next) j ∨ Rejecting calls s₀ asked (w.discard i next) j := by
  rcases h with h | h
  · unfold Fresh
    rw [discard_session_of_ne hj]
    exact .inl h
  · refine .inr ⟨release_of_ne h.lock hj, h.rejected, ?_, ?_⟩
    · rw [discard_session_of_ne hj]
      exact h.point
    · rw [discard_view_of_ne hj]
      exact h.decided

theorem Holder.discard (h : Holder calls s₀ asked w n m k) (hk : k ≠ i) :
    Holder calls s₀ asked (w.discard i next) n m k := by
  refine ⟨release_of_ne h.lock hk, h.approved, ?_, ?_, ?_⟩
  · rw [discard_view_of_ne hk]
    exact h.orders
  · rw [discard_session_of_ne hk]
    exact h.stage
  · rw [discard_session_of_ne hk, discard_view_of_ne hk]
    exact fun hw => ⟨release_of_ne (h.written hw).1 hk, (h.written hw).2⟩

omit [DecidableEq ι] in
/-- Two sessions do not own one row. -/
theorem Rejecting.unique (h : Rejecting calls s₀ asked w j)
    (hk : w.owner (.operation asked.id) = some k) : j = k := by
  have hlock := h.lock
  rw [hk] at hlock
  exact (Option.some.inj hlock).symm

omit [DecidableEq ι] in
/-- A rejection has no statement left but its commit. -/
theorem Rejecting.not_exec (h : Rejecting calls s₀ asked w i) {rows : Store → List Row}
    {run : Store → Effect Store Event ApprovalPoint} :
    approvalCode env (calls i) (w.session i).point ≠ .exec rows run := by
  obtain ⟨op, hpoint⟩ := h.point
  rw [hpoint]
  exact nofun

/-! What one turn does. -/

omit [DecidableEq ι] in
/-- A statement before the decision, in a store that still has the orders. -/
theorem fresh_ran (hfound : s₀.operationByOperationId (calls i).operationId = .ok (some asked))
    (hsame : orders w.committed = orders s₀) {rows : Store → List Row}
    {run : Store → Effect Store Event ApprovalPoint}
    (hcode : approvalCode env (calls i) (w.session i).point = .exec rows run)
    (h : Fresh calls asked w i) :
    BeforeStep (calls i) asked w.committed (w.session i).point (rows (w.view i))
      (run (w.view i)) := by
  have hview := view_of_writes h.1
  rw [hview]
  exact before_ran hfound hsame hcode h.2

/-- The new place of a call that goes on without writing. -/
theorem fresh_onward (hwrites : (w.session i).writes = id) (hnext : Before (calls i) asked next)
    (rows : List Row) :
    Fresh calls asked (w.advance i rows (⟨id, [], next⟩ : Effect Store Event ApprovalPoint)) i := by
  unfold Fresh
  rw [advance_session_self, hwrites]
  exact ⟨rfl, hnext⟩

/-- The new place of a call that has rejected. -/
theorem rejecting_of_rejected (hself : s₀.operations.find? asked.id = some asked)
    (hsame : orders w.committed = orders s₀) (hwrites : (w.session i).writes = id)
    {op answer : FinancialOperation} (horder : orderOf op = orderOf asked)
    (hrejected : (calls i).approval.approved = false) (emits : List Event) :
    Rejecting calls s₀ asked
      (w.advance i [.operation asked.id] ⟨rejectRow (calls i) op, emits, .finish answer⟩) i := by
  have hid : op.id = asked.id := congrArg (·.id) horder
  refine ⟨if_pos (List.mem_singleton_self _), hrejected, ⟨answer, ?_⟩, ?_⟩
  · rw [advance_session_self]
  · rw [advance_view_self, view_of_writes hwrites]
    have hwritten := @decided_updateOperation _ _ w.committed hself hsame _ hid
      (.moveToWith .policyRejected (some (rejectionMessage (calls i).approval)))
      (fun _ => key_kept rfl) (fun _ => rfl) (fun _ => nofun)
    exact ⟨hwritten.orders, hwritten.status⟩

/-- The new place of a call that has taken the mandate's row. -/
theorem holder_of_reserve (hsame : orders w.committed = orders s₀)
    (hwrites : (w.session i).writes = id) (happroved : (calls i).approval.approved = true)
    {write : Store → Store} (hwrite : orders (write w.committed) = orders w.committed)
    {emits : List Event} (hnext : Reserving asked n m next) (hunwritten : ¬ Written next) :
    Holder calls s₀ asked
      (w.advance i [.mandate asked.mandateId] ⟨write, emits, next⟩) n m i := by
  refine ⟨if_pos (List.mem_singleton_self _), happroved, ?_, ?_, ?_⟩
  · rw [advance_view_self, view_of_writes hwrites]
    exact hwrite.trans hsame
  · rw [advance_session_self]
    exact hnext
  · rw [advance_session_self]
    exact fun hw => absurd hw hunwritten

omit [DecidableEq ι] in
/-- After a decision, no statement of another one is taken. -/
theorem Decided.not_stillParked {op : FinancialOperation}
    (h : Decided s₀ asked w.committed) (hstill : StillParked w i)
    (hdecides : decides (w.session i).point = some op) (horder : orderOf op = orderOf asked) :
    False := by
  have hid : op.id = asked.id := congrArg (·.id) horder
  obtain ⟨row, hrow, hparked⟩ := hstill op hdecides
  obtain ⟨row', hrow', hdecided⟩ := h.status
  rw [hid, hrow'] at hrow
  cases hrow
  exact hdecided hparked

/-- A statement while nothing is decided. -/
theorem undecided_ran
    (hcall : ∀ i, s₀.operationByOperationId (calls i).operationId = .ok (some asked))
    {rows : Store → List Row} {run : Store → Effect Store Event ApprovalPoint}
    (hcode : approvalCode env (calls i) (w.session i).point = .exec rows run)
    (hfree : ∀ k ∈ rows (w.view i), w.Available i k)
    (hparked : Parked s₀ asked w.committed)
    (hall : ∀ i, Fresh calls asked w i ∨ Rejecting calls s₀ asked w i)
    (hunheld : w.owner (.mandate asked.mandateId) = none)
    (hreservations : reservations trace = 0) (hcalls : gatewayCalls trace = 0) :
    Phase calls s₀ asked (w.advance i (rows (w.view i)) (run (w.view i)))
      (trace ++ (run (w.view i)).emits.map fun e => (i, e)) := by
  obtain ⟨hself, -⟩ := Store.find?_of_operationByOperationId (hcall i)
  obtain ⟨hmade, hcalled⟩ := counts_append trace i (run (w.view i)).emits
  rcases hall i with hfresh | hrejecting
  swap
  · exact absurd hcode hrejecting.not_exec
  have hstep := fresh_ran (hcall i) hparked.orders hcode hfresh
  generalize run (w.view i) = e at hstep hmade hcalled ⊢
  generalize rows (w.view i) = taken at hstep hfree ⊢
  generalize hp : (w.session i).point = p at hstep
  have hothers : ∀ j, j ≠ i → Fresh calls asked (w.advance i taken e) j ∨
      Rejecting calls s₀ asked (w.advance i taken e) j :=
    fun j hj => quiet_advance (hall j) hj hfree
  rw [hreservations] at hmade
  rw [hcalls] at hcalled
  cases hstep with
  | onward hnext =>
    refine .undecided hparked (fun j => ?_) hunheld hmade hcalled
    by_cases hj : j = i
    · rw [hj]
      exact .inl (fresh_onward hfresh.1 hnext _)
    · exact hothers j hj
  | rejected horder hrejected =>
    refine .undecided hparked (fun j => ?_) hunheld hmade hcalled
    by_cases hj : j = i
    · rw [hj]
      exact .inr (rejecting_of_rejected hself hparked.orders hfresh.1 horder hrejected _)
    · exact hothers j hj
  | exhausted horder happroved =>
    refine .reserving i hparked ?_ hothers
    rw [hmade, hcalled]
    exact holder_of_reserve hparked.orders hfresh.1 happroved rfl ⟨horder, rfl, rfl⟩ id
  | reserved horder happroved hwrite =>
    refine .reserving i hparked ?_ hothers
    rw [hmade, hcalled]
    exact holder_of_reserve hparked.orders hfresh.1 happroved hwrite ⟨horder, le_refl 1, rfl⟩ id

/-- A statement of the call that holds the mandate. -/
theorem holder_ran
    (hcall : s₀.operationByOperationId (calls k).operationId = .ok (some asked))
    {rows : Store → List Row} {run : Store → Effect Store Event ApprovalPoint}
    (hcode : approvalCode env (calls k) (w.session k).point = .exec rows run)
    (hfree : ∀ r ∈ rows (w.view k), w.Available k r)
    (hparked : Parked s₀ asked w.committed)
    (hholder : Holder calls s₀ asked w (reservations trace) (gatewayCalls trace) k)
    (hothers : ∀ i, i ≠ k → Fresh calls asked w i ∨ Rejecting calls s₀ asked w i) :
    Phase calls s₀ asked (w.advance k (rows (w.view k)) (run (w.view k)))
      (trace ++ (run (w.view k)).emits.map fun e => (k, e)) := by
  obtain ⟨hself, -⟩ := Store.find?_of_operationByOperationId hcall
  obtain ⟨hmade, hcalled⟩ := counts_append trace k (run (w.view k)).emits
  obtain ⟨hstage, hdecided, hlock⟩ := reserving_ran hself hholder.orders
    (fun hw => (hholder.written hw).2) hcode hholder.stage
  refine .reserving k hparked ⟨advance_owner_kept hholder.lock hfree, hholder.approved, ?_, ?_,
    fun _ => ⟨?_, ?_⟩⟩ fun j hj => quiet_advance (hothers j hj) hj hfree
  · rw [advance_view_self]
    exact hdecided.orders
  · rw [hmade, hcalled, advance_session_self]
    exact hstage
  · rcases hlock with hw | hm
    · exact advance_owner_kept (hholder.written hw).1 hfree
    · exact if_pos hm
  · rw [advance_view_self]
    exact hdecided

/-- A statement of another call, while one holds the mandate. -/
theorem beside_holder_ran
    (hcall : ∀ i, s₀.operationByOperationId (calls i).operationId = .ok (some asked))
    {rows : Store → List Row} {run : Store → Effect Store Event ApprovalPoint}
    (hcode : approvalCode env (calls i) (w.session i).point = .exec rows run)
    (hfree : ∀ k ∈ rows (w.view i), w.Available i k)
    (hki : k ≠ i) (hparked : Parked s₀ asked w.committed)
    (hholder : Holder calls s₀ asked w (reservations trace) (gatewayCalls trace) k)
    (hothers : ∀ i, i ≠ k → Fresh calls asked w i ∨ Rejecting calls s₀ asked w i) :
    Phase calls s₀ asked (w.advance i (rows (w.view i)) (run (w.view i)))
      (trace ++ (run (w.view i)).emits.map fun e => (i, e)) := by
  obtain ⟨hself, -⟩ := Store.find?_of_operationByOperationId (hcall i)
  obtain ⟨hmade, hcalled⟩ := counts_append trace i (run (w.view i)).emits
  have hik : i ≠ k := fun he => hki he.symm
  rcases hothers i hik with hfresh | hrejecting
  swap
  · exact absurd hcode hrejecting.not_exec
  have hstep := fresh_ran (hcall i) hparked.orders hcode hfresh
  generalize run (w.view i) = e at hstep hmade hcalled ⊢
  generalize rows (w.view i) = taken at hstep hfree ⊢
  generalize hp : (w.session i).point = p at hstep
  have hquiet : ∀ j, j ≠ i → j ≠ k → Fresh calls asked (w.advance i taken e) j ∨
      Rejecting calls s₀ asked (w.advance i taken e) j :=
    fun j hj hjk => quiet_advance (hothers j hjk) hj hfree
  have hnot := not_mem_of_owned hholder.lock hki hfree
  cases hstep with
  | onward hnext =>
    refine .reserving k hparked ?_ fun j hj => ?_
    · rw [hmade, hcalled]
      exact hholder.advance hki hfree
    · by_cases hji : j = i
      · rw [hji]
        exact .inl (fresh_onward hfresh.1 hnext _)
      · exact hquiet j hji hj
  | rejected horder hrejected =>
    refine .reserving k hparked ?_ fun j hj => ?_
    · rw [hmade, hcalled]
      exact hholder.advance hki hfree
    · by_cases hji : j = i
      · rw [hji]
        exact .inr (rejecting_of_rejected hself hparked.orders hfresh.1 horder hrejected _)
      · exact hquiet j hji hj
  | exhausted _ _ => exact absurd (List.mem_singleton_self _) hnot
  | reserved _ _ _ => exact absurd (List.mem_singleton_self _) hnot

/-- A statement after the decision: all that is left to the others is to look. -/
theorem decided_ran
    (hcall : ∀ i, s₀.operationByOperationId (calls i).operationId = .ok (some asked))
    {rows : Store → List Row} {run : Store → Effect Store Event ApprovalPoint}
    (hcode : approvalCode env (calls i) (w.session i).point = .exec rows run)
    (hfree : ∀ k ∈ rows (w.view i), w.Available i k)
    (hstill : StillParked w i) (hdecided : Decided s₀ asked w.committed)
    (hreturned : ∃ op, (w.session k).point = .returned op)
    (hothers : ∀ i, i ≠ k → Halted calls asked w i)
    (hreservations : reservations trace ≤ 1) (hcalls : gatewayCalls trace ≤ 1)
    (hrejected : (calls k).approval.approved = false → gatewayCalls trace = 0) :
    Phase calls s₀ asked (w.advance i (rows (w.view i)) (run (w.view i)))
      (trace ++ (run (w.view i)).emits.map fun e => (i, e)) := by
  obtain ⟨hmade, hcalled⟩ := counts_append trace i (run (w.view i)).emits
  have hki : k ≠ i := by
    rintro rfl
    obtain ⟨op, hpoint⟩ := hreturned
    rw [hpoint] at hcode
    cases hcode
  rcases hothers i fun he => hki he.symm with hfresh | ⟨op, horder, hpoint | ⟨mandate, hpoint⟩⟩
  · have hstep := fresh_ran (hcall i) hdecided.orders hcode hfresh
    generalize run (w.view i) = e at hstep hmade hcalled ⊢
    generalize rows (w.view i) = taken at hstep hfree ⊢
    generalize hp : (w.session i).point = p at hstep
    cases hstep with
    | onward hnext =>
      refine .decided k hdecided ?_ (fun j hj => ?_) ?_ ?_ fun hr => ?_
      · rw [advance_session_of_ne hki]
        exact hreturned
      · by_cases hji : j = i
        · rw [hji]
          exact .inl (fresh_onward hfresh.1 hnext _)
        · unfold Halted Fresh
          rw [advance_session_of_ne hji]
          exact hothers j hj
      · rw [hmade]
        exact hreservations
      · rw [hcalled]
        exact hcalls
      · rw [hcalled]
        exact hrejected hr
    | rejected horder _ =>
      exact (hdecided.not_stillParked hstill (by rw [hp]; rfl) horder).elim
    | exhausted horder _ =>
      exact (hdecided.not_stillParked hstill (by rw [hp]; rfl) horder).elim
    | reserved horder _ _ =>
      exact (hdecided.not_stillParked hstill (by rw [hp]; rfl) horder).elim
  · exact (hdecided.not_stillParked hstill (by rw [hpoint]; rfl) horder).elim
  · exact (hdecided.not_stillParked hstill (by rw [hpoint]; rfl) horder).elim

/-- **A statement of one of the calls**, by phase. -/
theorem phase_ran (hcall : ∀ i, s₀.operationByOperationId (calls i).operationId = .ok (some asked))
    (h : Phase calls s₀ asked w trace) (hstill : StillParked w i) {rows : Store → List Row}
    {run : Store → Effect Store Event ApprovalPoint}
    (hcode : approvalCode env (calls i) (w.session i).point = .exec rows run)
    (hfree : ∀ k ∈ rows (w.view i), w.Available i k) :
    Phase calls s₀ asked (w.advance i (rows (w.view i)) (run (w.view i)))
      (trace ++ (run (w.view i)).emits.map fun e => (i, e)) := by
  cases h with
  | undecided hparked hall hunheld hreservations hcalls =>
    exact undecided_ran hcall hcode hfree hparked hall hunheld hreservations hcalls
  | reserving k hparked hholder hothers =>
    by_cases hki : k = i
    · subst hki
      exact holder_ran (hcall k) hcode hfree hparked hholder hothers
    · exact beside_holder_ran hcall hcode hfree hki hparked hholder hothers
  | decided k hdecided hreturned hothers hreservations hcalls hrejected =>
    exact decided_ran hcall hcode hfree hstill hdecided hreturned hothers hreservations hcalls
      hrejected

omit [DecidableEq ι] in
/-- A call that holds the mandate while another one owns the operation's row has not called. -/
theorem Holder.overtaken (h : Holder calls s₀ asked w n m k)
    (hlock : w.owner (.operation asked.id) = some i) (hk : k ≠ i) :
    (∃ op, orderOf op = orderOf asked ∧ ((w.session k).point = .exhausted op ∨
      ∃ mandate, (w.session k).point = .grant mandate op)) ∧ n ≤ 1 ∧ m = 0 := by
  have hunwritten : ¬ Written (w.session k).point := by
    intro hw
    have hown := (h.written hw).1
    rw [hlock] at hown
    exact hk (Option.some.inj hown).symm
  have hstage := h.stage
  generalize (w.session k).point = p at hstage hunwritten ⊢
  cases p with
  | exhausted op =>
    obtain ⟨horder, hn, hm⟩ := hstage
    exact ⟨⟨op, horder, .inl rfl⟩, hn.le.trans zero_le_one, hm⟩
  | grant mandate op =>
    obtain ⟨horder, hn, hm⟩ := hstage
    exact ⟨⟨op, horder, .inr ⟨mandate, rfl⟩⟩, hn, hm⟩
  | dispatch _ _ => exact absurd trivial hunwritten
  | settle _ _ => exact absurd trivial hunwritten
  | finish _ => exact absurd trivial hunwritten
  | read => cases hstage
  | loadMandate _ => cases hstage
  | reject _ => cases hstage
  | reserve _ _ => cases hstage
  | returned _ => cases hstage
  | raised _ => cases hstage
  | refused _ => cases hstage

/-- A call that owns the operation's row commits its decision: the others have decided nothing. -/
theorem decided_of_commit {op : FinancialOperation} (hdecided : Decided s₀ asked (w.view i))
    (hlock : w.owner (.operation asked.id) = some i)
    (hothers : ∀ j, j ≠ i → Fresh calls asked w j ∨ Rejecting calls s₀ asked w j ∨
      Holder calls s₀ asked w (reservations trace) (gatewayCalls trace) j)
    (hreservations : reservations trace ≤ 1) (hcalls : gatewayCalls trace ≤ 1)
    (hrejected : (calls i).approval.approved = false → gatewayCalls trace = 0) :
    Phase calls s₀ asked (w.publish i (.returned op)) trace := by
  refine .decided i hdecided ⟨op, ?_⟩ (fun j hj => ?_) hreservations hcalls hrejected
  · rw [publish_session_self]
  · unfold Halted Fresh
    rw [publish_session_of_ne hj]
    rcases hothers j hj with hfresh | hrejecting | hholder
    · exact .inl hfresh
    · exact absurd (hrejecting.unique hlock) hj
    · exact .inr (hholder.overtaken hlock hj).1

/-- The commit of a decision. -/
theorem phase_committed (h : Phase calls s₀ asked w trace) {next : ApprovalPoint}
    (hcode : approvalCode env (calls i) (w.session i).point = .commit next) :
    Phase calls s₀ asked (w.publish i next) trace := by
  obtain ⟨op, hpoint, rfl⟩ := approvalCode_commit hcode
  have hfresh : ¬ Fresh calls asked w i := by
    rintro ⟨-, hbefore⟩
    rw [hpoint] at hbefore
    exact hbefore
  cases h with
  | undecided hparked hall hunheld hreservations hcalls =>
    rcases hall i with h | hrejecting
    · exact absurd h hfresh
    · exact decided_of_commit hrejecting.decided hrejecting.lock
        (fun j _ => (hall j).imp id .inl) (hreservations.le.trans zero_le_one)
        (hcalls.le.trans zero_le_one) fun _ => hcalls
  | reserving k hparked hholder hothers =>
    by_cases hki : k = i
    · subst hki
      obtain ⟨hlock, hdecided⟩ := hholder.written (by rw [hpoint]; trivial)
      have hstage := hholder.stage
      rw [hpoint] at hstage
      refine decided_of_commit hdecided hlock (fun j hj => (hothers j hj).imp id .inl) hstage.1
        hstage.2 fun hr => ?_
      rw [hholder.approved] at hr
      cases hr
    · rcases hothers i fun he => hki he.symm with h | hrejecting
      · exact absurd h hfresh
      · obtain ⟨-, hreservations, hcalls⟩ := hholder.overtaken hrejecting.lock hki
        refine decided_of_commit hrejecting.decided hrejecting.lock (fun j _ => ?_) hreservations
          (hcalls.le.trans zero_le_one) fun _ => hcalls
        by_cases hjk : j = k
        · subst hjk
          exact .inr (.inr hholder)
        · exact (hothers j hjk).imp id .inl
  | decided k hdecided hreturned hothers hreservations hcalls hrejected =>
    have hki : k ≠ i := by
      rintro rfl
      obtain ⟨op', hpoint'⟩ := hreturned
      rw [hpoint] at hpoint'
      cases hpoint'
    rcases hothers i fun he => hki he.symm with h | ⟨op', -, hpoint' | ⟨mandate, hpoint'⟩⟩
    · exact absurd h hfresh
    · rw [hpoint] at hpoint'
      cases hpoint'
    · rw [hpoint] at hpoint'
      cases hpoint'

/-- A refusal. -/
theorem phase_rolledBack (h : Phase calls s₀ asked w trace) {next : ApprovalPoint}
    (hcode : approvalCode env (calls i) (w.session i).point = .rollback next) :
    Phase calls s₀ asked (w.discard i next) trace := by
  obtain ⟨refusal, hpoint, rfl⟩ := approvalCode_rollback hcode
  have hnew : Fresh calls asked (w.discard i (.refused refusal)) i := by
    unfold Fresh
    rw [discard_session_self]
    exact ⟨rfl, trivial⟩
  cases h with
  | undecided hparked hall hunheld hreservations hcalls =>
    refine .undecided hparked (fun j => ?_) ?_ hreservations hcalls
    · by_cases hj : j = i
      · rw [hj]
        exact .inl hnew
      · exact quiet_discard (hall j) hj
    · show w.release i _ = none
      rw [World.release, hunheld, ite_self]
  | reserving k hparked hholder hothers =>
    have hki : k ≠ i := by
      rintro rfl
      have hstage := hholder.stage
      rw [hpoint] at hstage
      exact hstage
    refine .reserving k hparked (hholder.discard hki) fun j hj => ?_
    by_cases hji : j = i
    · rw [hji]
      exact .inl hnew
    · exact quiet_discard (hothers j hj) hji
  | decided k hdecided hreturned hothers hreservations hcalls hrejected =>
    have hki : k ≠ i := by
      rintro rfl
      obtain ⟨op, hpoint'⟩ := hreturned
      rw [hpoint] at hpoint'
      cases hpoint'
    refine .decided k hdecided ?_ (fun j hj => ?_) hreservations hcalls hrejected
    · rw [discard_session_of_ne hki]
      exact hreturned
    · by_cases hji : j = i
      · rw [hji]
        exact .inl hnew
      · unfold Halted Fresh
        rw [discard_session_of_ne hji]
        exact hothers j hj

/-- **One turn keeps the phases**, unless it acts on a decided operation. -/
theorem phase_step (hcall : ∀ i, s₀.operationByOperationId (calls i).operationId = .ok (some asked))
    (h : Phase calls s₀ asked w trace) (hstill : StillParked w i)
    (hf : Fired (fun i => approvalCode env (calls i)) w i labels w') :
    Phase calls s₀ asked w' (trace ++ labels) := by
  cases hf with
  | waited =>
    rw [List.append_nil]
    exact h
  | ran hcode hfree => exact phase_ran hcall h hstill hcode hfree
  | grabbed hcode _ => exact absurd hcode approvalCode_grab
  | committed hcode =>
    rw [List.append_nil]
    exact phase_committed h hcode
  | rolledBack hcode =>
    rw [List.append_nil]
    exact phase_rolledBack h hcode

end Phases

/-! ### What the callers see -/

/-- What the decisions on an operation have done together: at most one reservation and one gateway
call, and no call at all when a rejection has succeeded. -/
structure ConsumedOnce {ι : Type*} (calls : ι → ApprovalCall) (trace : List (ι × Event))
    (w : World ι Row Store ApprovalPoint) : Prop where
  reservation : reservations trace ≤ 1
  call : gatewayCalls trace ≤ 1
  rejection : ∀ i op, (calls i).approval.approved = false → (w.session i).point = .returned op →
    gatewayCalls trace = 0

theorem reserving_counts {asked : FinancialOperation} {n m : ℕ} {p : ApprovalPoint}
    (h : Reserving asked n m p) : n ≤ 1 ∧ m ≤ 1 ∧ ∀ op, p ≠ .returned op := by
  have hnone {k : ℕ} (h : k = 0) : k ≤ 1 := h.le.trans zero_le_one
  cases p with
  | exhausted _ =>
    obtain ⟨-, hn, hm⟩ := h
    exact ⟨hnone hn, hnone hm, fun _ he => by cases he⟩
  | grant _ _ =>
    obtain ⟨-, hn, hm⟩ := h
    exact ⟨hn, hnone hm, fun _ he => by cases he⟩
  | dispatch _ _ =>
    obtain ⟨-, hn, hm⟩ := h
    exact ⟨hn, hnone hm, fun _ he => by cases he⟩
  | settle _ _ =>
    obtain ⟨-, hn, hm⟩ := h
    exact ⟨hn, hm, fun _ he => by cases he⟩
  | finish _ => exact ⟨h.1, h.2, fun _ he => by cases he⟩
  | read => exact absurd h id
  | loadMandate _ => exact absurd h id
  | reject _ => exact absurd h id
  | reserve _ _ => exact absurd h id
  | returned _ => exact absurd h id
  | raised _ => exact absurd h id
  | refused _ => exact absurd h id

theorem consumedOnce_of_phase {ι : Type*} {calls : ι → ApprovalCall} {s₀ : Store}
    {asked : FinancialOperation} {trace : List (ι × Event)} {w : World ι Row Store ApprovalPoint}
    (h : Phase calls s₀ asked w trace) : ConsumedOnce calls trace w := by
  have hfresh {i : ι} {op : FinancialOperation} (h : Fresh calls asked w i) :
      (w.session i).point ≠ .returned op := by
    intro hpoint
    have hbefore := h.2
    rw [hpoint] at hbefore
    exact hbefore
  have hquiet {i : ι} {op : FinancialOperation}
      (h : Fresh calls asked w i ∨ Rejecting calls s₀ asked w i) :
      (w.session i).point ≠ .returned op := by
    rcases h with h | h
    · exact hfresh h
    · obtain ⟨op', hpoint⟩ := h.point
      rw [hpoint]
      exact nofun
  cases h with
  | undecided hparked hall hunheld hreservations hcalls =>
    exact ⟨hreservations.le.trans zero_le_one, hcalls.le.trans zero_le_one, fun _ _ _ _ => hcalls⟩
  | reserving k hparked hholder hothers =>
    obtain ⟨hreservations, hcalls, hpoint⟩ := reserving_counts hholder.stage
    refine ⟨hreservations, hcalls, fun i op _ hreturned => ?_⟩
    by_cases hik : i = k
    · rw [hik] at hreturned
      exact absurd hreturned (hpoint op)
    · exact absurd hreturned (hquiet (hothers i hik))
  | decided k hdecided hreturned hothers hreservations hcalls hrejected =>
    refine ⟨hreservations, hcalls, fun i op hreject hpoint => ?_⟩
    by_cases hik : i = k
    · rw [hik] at hreject
      exact hrejected hreject
    · rcases hothers i hik with h | ⟨op', -, hpoint' | ⟨mandate, hpoint'⟩⟩
      · exact absurd hpoint (hfresh h)
      · rw [hpoint] at hpoint'
        cases hpoint'
      · rw [hpoint] at hpoint'
        cases hpoint'

namespace Sample

/-- The first order of the sample agent, parked. -/
def parkedA : FinancialOperation :=
  (newOperation ControlPlane.Sample.platform ControlPlane.Sample.orderA
    (ControlPlane.Sample.inputs "operation_A" "order_A" 600)).moveTo .requiresApproval

/-- The mandate has room for the order twice. -/
def parkedStore : Store :=
  { ControlPlane.Sample.store with
    mandates := ControlPlane.Sample.table
      { ControlPlane.Sample.mandate with aggregateSpendLimit := 2000 }
    operations := ControlPlane.Sample.table parkedA }

def approvalA : ApprovalCall :=
  ⟨"operation_A", ⟨"prn_1", true, none⟩,
    ⟨.ok ⟨"order_A", 600, "INR", "created"⟩, .error "", .error ""⟩⟩

end Sample

end MandatePlane.ApprovalRace

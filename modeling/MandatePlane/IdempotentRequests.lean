import MandatePlane.HandlerPostings
import MandatePlane.OperationSessions

/-!
# Requests that share an idempotency key

Any number of requests with one key run interleaved.  Each looks the key up before it
holds a lock, so several can go on as if the key were new; the entry of the unique
index decides between them.  The request that inserts its row keeps the entry until it
commits, the others wait for it and then fail on the row it has committed.

At every moment the requests are in one of three phases: nobody has inserted, one holds
the entry and is somewhere between its insert and its commit, or the row is committed.
-/

namespace MandatePlane.IdempotentRequests

open DomainModel KeyedTable LabelledRun LedgerView HostEnvironment HandlerPostings PolicyEngine
open OperationRoutes RazorpayClient ControlPlane ReadCommitted OperationSessions

/-! ### The rows with a key -/

/-- No row has the key. -/
def KeyFree (key : String) (s : Store) : Prop := ∀ r ∈ s.operations.rows, r.idempotencyKey ≠ key

/-- The row `id` has the key, and no other row. -/
structure HasKey (key id : String) (s : Store) : Prop where
  row : ∃ r ∈ s.operations.rows, r.idempotencyKey = key ∧ r.id = id
  only : ∀ r ∈ s.operations.rows, r.idempotencyKey = key → r.id = id

/-- Keys and ids of the rows are part of the orders. -/
theorem hasKey_of_orders {key id : String} {s s' : Store} (h : orders s' = orders s)
    (hk : HasKey key id s) : HasKey key id s' := by
  have hkey {r r' : FinancialOperation} (he : orderOf r = orderOf r') :
      r.idempotencyKey = r'.idempotencyKey := congrArg (·.idempotencyKey) he
  have hid {r r' : FinancialOperation} (he : orderOf r = orderOf r') : r.id = r'.id :=
    congrArg (·.id) he
  refine ⟨?_, fun r hr hrkey => ?_⟩
  · obtain ⟨r, hr, hrkey, hrid⟩ := hk.row
    obtain ⟨r', hr', he⟩ := mem_of_orders h.symm hr
    exact ⟨r', hr', (hkey he).trans hrkey, (hid he).trans hrid⟩
  · obtain ⟨r₀, hr₀, he⟩ := mem_of_orders h hr
    exact (hid he).symm.trans (hk.only r₀ hr₀ ((hkey he).trans hrkey))

/-- **The unique index.**  An insert that succeeds finds its key free and has it afterwards. -/
theorem hasKey_insert {s s' : Store} {op : FinancialOperation} (h : s.insertOperation op = some s') :
    KeyFree op.idempotencyKey s ∧ HasKey op.idempotencyKey op.id s' := by
  obtain ⟨hfree, operations, hi, rfl⟩ := Store.insertOperation_eq_some_iff.mp h
  have hkey : KeyFree op.idempotencyKey s := fun r hr => (hfree r hr).2
  refine ⟨hkey, ⟨op, (Table.mem_insert hi).mpr (.inr rfl), rfl, rfl⟩, fun r hr hk => ?_⟩
  rcases (Table.mem_insert hi).mp hr with hr | rfl
  · exact absurd hk (hkey r hr)
  · rfl

/-- A row that a lookup by key returned. -/
theorem mem_of_operationByIdempotencyKey {s : Store} {key : String} {op : FinancialOperation}
    (h : s.operationByIdempotencyKey key = .ok (some op)) :
    op ∈ s.operations.rows ∧ op.idempotencyKey = key := by
  have hm : op ∈ s.operations.rows.filter fun op => op.idempotencyKey = key := by
    rw [scalarOneOrFail_eq_ok.mp h]
    exact List.mem_singleton_self op
  rw [List.mem_filter] at hm
  exact ⟨hm.1, of_decide_eq_true hm.2⟩

/-! ### One request -/

section Request

variable {env : Platform} {settings : Settings} {call : RequestCall} {s : Store}
  {p : RequestPoint} {rows : Store → List Row} {run : Store → Effect Store Event RequestPoint}

/-- Before its insert, or refused: the request has written nothing. -/
def Waiting : RequestPoint → Prop
  | .authenticate => True
  | .lookUp => True
  | .lockMandate => True
  | .loadAgent _ => True
  | .insert _ _ => True
  | .raised _ => True
  | .refused _ => True
  | _ => False

/-- Between its insert and its commit, with the reservations and the calls it has made so far. -/
def Holding (call : RequestCall) (reservations calls : ℕ) : RequestPoint → Prop
  | .decide _ _ => reservations = 0 ∧ calls = 0
  | .lost operation _ => operation.id = call.inputs.id ∧ reservations = 0 ∧ calls = 0
  | .reserved _ operation _ => operation.id = call.inputs.id ∧ reservations ≤ 1 ∧ calls = 0
  | .dispatch _ operation => operation.id = call.inputs.id ∧ reservations ≤ 1 ∧ calls = 0
  | .settle _ operation => operation.id = call.inputs.id ∧ reservations ≤ 1 ∧ calls ≤ 1
  | .finish operation => operation.id = call.inputs.id ∧ reservations ≤ 1 ∧ calls ≤ 1
  | _ => False

theorem holding_counts {n m : ℕ} (h : Holding call n m p) :
    n ≤ 1 ∧ m ≤ 1 ∧ ∀ op, p ≠ .returned op := by
  have hnone {k : ℕ} (h : k = 0) : k ≤ 1 := h.le.trans zero_le_one
  cases p with
  | decide _ _ =>
    obtain ⟨hn, hm⟩ := h
    exact ⟨hnone hn, hnone hm, fun _ he => by cases he⟩
  | lost _ _ =>
    obtain ⟨-, hn, hm⟩ := h
    exact ⟨hnone hn, hnone hm, fun _ he => by cases he⟩
  | reserved _ _ _ =>
    obtain ⟨-, hn, hm⟩ := h
    exact ⟨hn, hnone hm, fun _ he => by cases he⟩
  | dispatch _ _ =>
    obtain ⟨-, hn, hm⟩ := h
    exact ⟨hn, hnone hm, fun _ he => by cases he⟩
  | settle _ _ =>
    obtain ⟨-, hn, hm⟩ := h
    exact ⟨hn, hm, fun _ he => by cases he⟩
  | finish _ =>
    obtain ⟨-, hn, hm⟩ := h
    exact ⟨hn, hm, fun _ he => by cases he⟩
  | authenticate => exact absurd h id
  | lookUp => exact absurd h id
  | lockMandate => exact absurd h id
  | loadAgent _ => exact absurd h id
  | insert _ _ => exact absurd h id
  | returned _ => exact absurd h id
  | raised _ => exact absurd h id
  | refused _ => exact absurd h id

/-- What a statement before the insert can do: go on, return the row that has the key, or insert. -/
inductive WaitingStep (env : Platform) (call : RequestCall) (s : Store) (rows : List Row) :
    Effect Store Event RequestPoint → Prop
  | onward {next : RequestPoint} (h : Waiting next) : WaitingStep env call s rows ⟨id, [], next⟩
  | found {op : FinancialOperation} (hm : op ∈ s.operations.rows)
      (hkey : op.idempotencyKey = call.payload.idempotencyKey) :
      WaitingStep env call s rows ⟨id, [], .returned op⟩
  | inserted {mandate : Mandate} {agent : Agent}
      (hlock : .idempotencyKey call.payload.idempotencyKey ∈ rows)
      (h : s.insertOperation (newOperation env call.payload call.inputs) =
        some (insertRow (newOperation env call.payload call.inputs) s)) :
      WaitingStep env call s rows
        ⟨insertRow (newOperation env call.payload call.inputs), [], .decide mandate agent⟩

theorem waiting_ran (hcode : requestCode env settings call p = .exec rows run) (hw : Waiting p) :
    WaitingStep env call s (rows s) (run s) := by
  cases p with
  | authenticate =>
    cases hcode
    dsimp only
    split
    · exact .onward trivial
    · exact .onward trivial
  | lookUp =>
    cases hcode
    dsimp only
    split
    · exact .onward trivial
    · rename_i existingOp hfound
      obtain ⟨hm, hkey⟩ := mem_of_operationByIdempotencyKey hfound
      exact .found hm hkey
    · exact .onward trivial
  | lockMandate =>
    cases hcode
    dsimp only
    split
    · exact .onward trivial
    · exact .onward trivial
  | loadAgent mandate =>
    cases hcode
    dsimp only
    split
    · exact .onward trivial
    · exact .onward trivial
  | insert mandate agent =>
    cases hcode
    dsimp only
    split
    · exact .onward trivial
    · rename_i s' hinsert
      refine .inserted List.mem_cons_self ?_
      rw [hinsert, insertRow, hinsert]
      rfl
  | raised _ => cases hcode
  | refused _ => cases hcode
  | decide _ _ => cases hw
  | lost _ _ => cases hw
  | reserved _ _ _ => cases hw
  | dispatch _ _ => cases hw
  | settle _ _ => cases hw
  | finish _ => cases hw
  | returned _ => cases hw

/-- **A statement of the request that holds the entry**: the keys of the rows stay as they are, and
the count goes on. -/
theorem holding_ran {n m : ℕ} (hcode : requestCode env settings call p = .exec rows run)
    (hh : Holding call n m p) :
    orders ((run s).write s) = orders s ∧
      Holding call (n + (run s).emits.countP isReservation) (m + (run s).emits.countP isCall)
        (run s).next := by
  cases p with
  | decide mandate agent =>
    obtain ⟨rfl, rfl⟩ := hh
    simp only [requestCode] at hcode
    split at hcode
    · cases hcode
    · rename_i result hresult
      unfold actStatement at hcode
      dsimp only at hcode
      split at hcode
      · cases hcode
        refine ⟨?_, rfl, Nat.zero_le _, Nat.zero_le _⟩
        simp only [recordEvaluation, orders_moveToWith, orders_audit, orders_withDetails]
      · cases hcode
        refine ⟨?_, rfl, Nat.zero_le _, Nat.zero_le _⟩
        simp only [recordEvaluation, orders_moveToWith, orders_audit, orders_withDetails]
      · cases hcode
        dsimp only
        split
        · exact ⟨rfl, rfl, rfl, rfl⟩
        · exact ⟨orders_updateMandate _ _ _ _, rfl, le_refl 1, rfl⟩
  | lost operation result =>
    obtain ⟨hid, rfl, rfl⟩ := hh
    cases hcode
    refine ⟨?_, hid, Nat.zero_le _, Nat.zero_le _⟩
    simp only [recordEvaluation, orders_lostReservation, orders_audit, orders_withDetails]
  | reserved mandate operation result =>
    cases hcode
    refine ⟨?_, hh⟩
    simp only [recordEvaluation, orders_moveTo, orders_audit, orders_withDetails]
  | dispatch mandate operation =>
    obtain ⟨hid, hn, rfl⟩ := hh
    cases hcode
    obtain ⟨hreservations, hcalls⟩ := calls_count operation
      (attemptGateway env call.inputs.gateway operation call.payload.payload).1
    refine ⟨rfl, hid, ?_, ?_⟩
    · rw [hreservations]
      exact hn
    · rw [hcalls, Nat.zero_add]
      exact attemptGateway_calls _ _ _ _
  | settle mandate operation =>
    obtain ⟨hid, hn, hm⟩ := hh
    cases hcode
    obtain ⟨hreservations, hcalls⟩ := settlementEvents_count operation
      (attemptGateway env call.inputs.gateway operation call.payload.payload).2
    refine ⟨executeGatewayOperation_orders _ _ _ _ _ _, ?_, ?_, ?_⟩
    · rw [executed_id]
      exact hid
    · rw [hreservations]
      exact hn
    · rw [hcalls]
      exact hm
  | finish _ => cases hcode
  | authenticate => cases hh
  | lookUp => cases hh
  | lockMandate => cases hh
  | loadAgent _ => cases hh
  | insert _ _ => cases hh
  | returned _ => cases hh
  | raised _ => cases hh
  | refused _ => cases hh

/-- A rollback ends a request that has reserved nothing. -/
theorem waiting_rollback {next : RequestPoint} {n m : ℕ}
    (hcode : requestCode env settings call p = .rollback next) :
    Waiting next ∧ (Holding call n m p → n = 0 ∧ m = 0) := by
  obtain ⟨⟨refusal, rfl⟩, ⟨mandate, agent, rfl⟩ | ⟨refusal', rfl⟩⟩ := requestCode_rollback hcode
  · exact ⟨trivial, id⟩
  · exact ⟨trivial, False.elim⟩

end Request

/-! ### All requests with one key -/

section Phases

variable {ι : Type*} [DecidableEq ι]

/-- Nothing written, and nothing written later without the entry. -/
def Idle (x : Session Store RequestPoint) : Prop := x.writes = id ∧ Waiting x.point

/-- Idle, or returned with the row `id`. -/
def Answered (id' : String) (x : Session Store RequestPoint) : Prop :=
  Idle x ∨ (x.writes = id ∧ ∃ op, x.point = .returned op ∧ op.id = id')

/-- **The three phases** of the requests with a key, given what they have observed so far. -/
inductive Phase (calls : ι → RequestCall) (key : String) (trace : List (ι × Event))
    (w : World ι Row Store RequestPoint) : Prop
  | untouched (hidle : ∀ i, Idle (w.session i)) (hfree : KeyFree key w.committed)
      (hreservations : reservations trace = 0) (hcalls : gatewayCalls trace = 0)
  | held (i : ι) (hidle : ∀ j, j ≠ i → Idle (w.session j)) (hfree : KeyFree key w.committed)
      (hlock : w.owner (.idempotencyKey key) = some i)
      (hkey : HasKey key (calls i).inputs.id (w.view i))
      (hholding : Holding (calls i) (reservations trace) (gatewayCalls trace) (w.session i).point)
  | settled (id : String) (hanswered : ∀ i, Answered id (w.session i))
      (hkey : HasKey key id w.committed)
      (hreservations : reservations trace ≤ 1) (hcalls : gatewayCalls trace ≤ 1)

variable {env : Platform} {settings : Settings} {calls : ι → RequestCall} {key : String}
  {trace labels : List (ι × Event)} {w w' : World ι Row Store RequestPoint} {i : ι}

omit [DecidableEq ι] in
/-- **A statement of a request that has nothing written.**  It stays so, or returns a committed
row that has the key, or inserts while the key is free. -/
theorem idle_ran {rows : Store → List Row} {run : Store → Effect Store Event RequestPoint}
    (hcall : (calls i).payload.idempotencyKey = key)
    (hcode : requestCode env settings (calls i) (w.session i).point = .exec rows run)
    (hidle : Idle (w.session i)) :
    (run (w.view i)).emits = [] ∧
      (Idle ⟨(run (w.view i)).next, (run (w.view i)).write ∘ (w.session i).writes⟩ ∨
        (¬ KeyFree key w.committed ∧ ∀ id, HasKey key id w.committed →
          Answered id ⟨(run (w.view i)).next, (run (w.view i)).write ∘ (w.session i).writes⟩) ∨
        (.idempotencyKey key ∈ rows (w.view i) ∧ KeyFree key w.committed ∧
          HasKey key (calls i).inputs.id
            (((run (w.view i)).write ∘ (w.session i).writes) w.committed) ∧
          Holding (calls i) 0 0 (run (w.view i)).next)) := by
  obtain ⟨hwrites, hwaiting⟩ := hidle
  have hview := view_of_writes hwrites
  have hstep := @waiting_ran _ _ _ (w.view i) _ _ _ hcode hwaiting
  generalize run (w.view i) = e at hstep ⊢
  generalize rows (w.view i) = taken at hstep ⊢
  rw [hview] at hstep
  rw [hwrites]
  cases hstep with
  | onward h => exact ⟨rfl, .inl ⟨rfl, h⟩⟩
  | @found op hm hkey =>
    rw [hcall] at hkey
    refine ⟨rfl, .inr (.inl ⟨fun hfree => hfree op hm hkey, fun id hhas => ?_⟩)⟩
    exact .inr ⟨rfl, op, rfl, hhas.only op hm hkey⟩
  | inserted hlock h =>
    obtain ⟨hfree, hhas⟩ := hasKey_insert h
    have hnew : (newOperation env (calls i).payload (calls i).inputs).idempotencyKey = key := hcall
    rw [hnew] at hfree hhas
    rw [hcall] at hlock
    exact ⟨rfl, .inr (.inr ⟨hlock, hfree, hhas, rfl, rfl⟩)⟩

/-- A statement of one of the requests. -/
theorem phase_ran (hcall : ∀ i, (calls i).payload.idempotencyKey = key)
    (h : Phase calls key trace w) {rows : Store → List Row}
    {run : Store → Effect Store Event RequestPoint}
    (hcode : requestCode env settings (calls i) (w.session i).point = .exec rows run)
    (hfree : ∀ k ∈ rows (w.view i), w.Available i k) :
    Phase calls key (trace ++ (run (w.view i)).emits.map fun e => (i, e))
      (w.advance i (rows (w.view i)) (run (w.view i))) := by
  obtain ⟨hmade, hcalled⟩ := counts_append trace i (run (w.view i)).emits
  cases h with
  | untouched hidle hnone hreservations hcalls =>
    obtain ⟨hemits, hstep⟩ := idle_ran (hcall i) hcode (hidle i)
    rw [hemits, List.map_nil, List.append_nil]
    rcases hstep with hstep | ⟨htaken, -⟩ | ⟨hlock, -, hhas, hholding⟩
    · have hall : ∀ j, Idle ((w.advance i (rows (w.view i)) (run (w.view i))).session j) :=
        (Function.forall_update_iff _ fun _ => Idle).mpr ⟨hstep, fun j _ => hidle j⟩
      exact .untouched hall hnone hreservations hcalls
    · exact absurd hnone htaken
    · refine .held i (fun j hj => ?_) hnone (if_pos hlock) ?_ ?_
      · rw [advance_session_of_ne hj]
        exact hidle j
      · rw [World.view, advance_session_self]
        exact hhas
      · rw [advance_session_self, hreservations, hcalls]
        exact hholding
  | held k hidle hnone hlock hkey hholding =>
    by_cases hki : k = i
    · subst hki
      obtain ⟨horders, hgoes⟩ := @holding_ran _ _ _ (w.view k) _ _ _ _ _ hcode hholding
      refine .held k (fun j hj => ?_) hnone (advance_owner_kept hlock hfree) ?_ ?_
      · rw [advance_session_of_ne hj]
        exact hidle j hj
      · rw [advance_view_self]
        exact hasKey_of_orders horders hkey
      · rw [hmade, hcalled, advance_session_self]
        exact hgoes
    · -- the others cannot insert while the entry is taken
      obtain ⟨hemits, hstep⟩ := idle_ran (hcall i) hcode (hidle i fun he => hki he.symm)
      rw [hemits, List.map_nil, List.append_nil]
      rcases hstep with hstep | ⟨htaken, -⟩ | ⟨hm, -⟩
      · have hall : ∀ j, j ≠ k →
            Idle ((w.advance i (rows (w.view i)) (run (w.view i))).session j) :=
          (Function.forall_update_iff _ fun j x => j ≠ k → Idle x).mpr
            ⟨fun _ => hstep, fun j _ => hidle j⟩
        refine .held k hall hnone (advance_owner_kept hlock hfree) ?_ ?_
        · rw [advance_view_of_ne hki]
          exact hkey
        · rw [advance_session_of_ne hki]
          exact hholding
      · exact absurd hnone htaken
      · exact absurd hm (not_mem_of_owned hlock hki hfree)
  | settled id hanswered hkey hreservations hcalls =>
    have hidle : Idle (w.session i) := by
      rcases hanswered i with hidle | ⟨-, op, hpoint, -⟩
      · exact hidle
      · rw [hpoint] at hcode
        cases hcode
    obtain ⟨hemits, hstep⟩ := idle_ran (hcall i) hcode hidle
    rw [hemits, List.map_nil, List.append_nil]
    have hnew : Answered id ((w.advance i (rows (w.view i)) (run (w.view i))).session i) := by
      rw [advance_session_self]
      rcases hstep with hstep | ⟨-, hstep⟩ | ⟨-, hnone, -⟩
      · exact .inl hstep
      · exact hstep id hkey
      · obtain ⟨r, hr, hrkey, -⟩ := hkey.row
        exact absurd hrkey (hnone r hr)
    refine .settled id (fun j => ?_) hkey hreservations hcalls
    by_cases hj : j = i
    · rw [hj]
      exact hnew
    · rw [advance_session_of_ne hj]
      exact hanswered j

omit [DecidableEq ι] in
/-- A request that holds the entry is the one that commits. -/
theorem not_idle_of_commit {next : RequestPoint}
    (hcode : requestCode env settings (calls i) (w.session i).point = .commit next) :
    ¬ Idle (w.session i) ∧ ∀ id, ¬ Answered id (w.session i) := by
  obtain ⟨op, hpoint, -⟩ := requestCode_commit hcode
  have hidle : ¬ Idle (w.session i) := by
    rintro ⟨-, hwaiting⟩
    rw [hpoint] at hwaiting
    exact hwaiting
  refine ⟨hidle, fun id => ?_⟩
  rintro (h | ⟨-, op', hreturned, -⟩)
  · exact hidle h
  · rw [hpoint] at hreturned
    cases hreturned

/-- The commit of the request that holds the entry. -/
theorem phase_committed (h : Phase calls key trace w) {next : RequestPoint}
    (hcode : requestCode env settings (calls i) (w.session i).point = .commit next) :
    Phase calls key trace (w.publish i next) := by
  obtain ⟨hidle', hanswered'⟩ := not_idle_of_commit hcode
  obtain ⟨op, hpoint, rfl⟩ := requestCode_commit hcode
  cases h with
  | untouched hidle _ _ _ => exact absurd (hidle i) hidle'
  | settled id hanswered _ _ _ => exact absurd (hanswered i) (hanswered' id)
  | held k hidle hnone hlock hkey hholding =>
    have hki : i = k := by
      by_contra hne
      exact hidle' (hidle i hne)
    subst hki
    rw [hpoint] at hholding
    obtain ⟨hid, hreservations, hcalls⟩ := hholding
    refine .settled (calls i).inputs.id (fun j => ?_) hkey hreservations hcalls
    by_cases hj : j = i
    · rw [hj, publish_session_self]
      exact .inr ⟨rfl, op, rfl, hid⟩
    · rw [publish_session_of_ne hj]
      exact .inl (hidle j hj)

/-- A refusal. -/
theorem phase_rolledBack (h : Phase calls key trace w) {next : RequestPoint}
    (hcode : requestCode env settings (calls i) (w.session i).point = .rollback next) :
    Phase calls key trace (w.discard i next) := by
  obtain ⟨hwaiting, hnothing⟩ := @waiting_rollback _ _ _ _ _
    (reservations trace) (gatewayCalls trace) hcode
  have hnext : Idle ((w.discard i next).session i) := by
    rw [discard_session_self]
    exact ⟨rfl, hwaiting⟩
  cases h with
  | untouched hidle hnone hreservations hcalls =>
    have hall : ∀ j, Idle ((w.discard i next).session j) :=
      (Function.forall_update_iff _ fun _ => Idle).mpr ⟨⟨rfl, hwaiting⟩, fun j _ => hidle j⟩
    exact .untouched hall hnone hreservations hcalls
  | held k hidle hnone hlock hkey hholding =>
    by_cases hki : k = i
    · -- refused by the policy engine, before anything was reserved
      subst hki
      obtain ⟨hreservations, hcalls⟩ := hnothing hholding
      have hall : ∀ j, Idle ((w.discard k next).session j) :=
        (Function.forall_update_iff _ fun _ => Idle).mpr ⟨⟨rfl, hwaiting⟩, hidle⟩
      exact .untouched hall hnone hreservations hcalls
    · have hall : ∀ j, j ≠ k → Idle ((w.discard i next).session j) :=
        (Function.forall_update_iff _ fun j x => j ≠ k → Idle x).mpr
          ⟨fun _ => ⟨rfl, hwaiting⟩, fun j _ => hidle j⟩
      refine .held k hall hnone (release_of_ne hlock hki) ?_ ?_
      · rw [discard_view_of_ne hki]
        exact hkey
      · rw [discard_session_of_ne hki]
        exact hholding
  | settled id hanswered hkey hreservations hcalls =>
    refine .settled id (fun j => ?_) hkey hreservations hcalls
    by_cases hj : j = i
    · rw [hj]
      exact .inl hnext
    · rw [discard_session_of_ne hj]
      exact hanswered j

/-- **One turn keeps the phases.** -/
theorem phase_step (hcall : ∀ i, (calls i).payload.idempotencyKey = key)
    (h : Phase calls key trace w)
    (hf : Fired (fun i => requestCode env settings (calls i)) w i labels w') :
    Phase calls key (trace ++ labels) w' := by
  cases hf with
  | waited =>
    rw [List.append_nil]
    exact h
  | ran hcode hfree => exact phase_ran hcall h hcode hfree
  | grabbed hcode _ => exact absurd hcode requestCode_grab
  | committed hcode =>
    rw [List.append_nil]
    exact phase_committed h hcode
  | rolledBack hcode =>
    rw [List.append_nil]
    exact phase_rolledBack h hcode

/-- **Every interleaving stays in the phases.** -/
theorem phase_run (env : Platform) (settings : Settings)
    (hcall : ∀ i, (calls i).payload.idempotencyKey = key) {s : Store}
    (hunique : ∀ r ∈ s.operations.rows, ∀ r' ∈ s.operations.rows,
      r.idempotencyKey = key → r'.idempotencyKey = key → r = r') (schedule : List ι) :
    Phase calls key
      ((interleaved fun i => requestCode env settings (calls i)).trace
        (opening s fun _ => .authenticate) schedule)
      ((interleaved fun i => requestCode env settings (calls i)).run
        (opening s fun _ => .authenticate) schedule) := by
  have hopen : Phase calls key [] (opening s fun _ => .authenticate) := by
    have hidle : ∀ i : ι, Idle ((opening s fun _ => .authenticate :
        World ι Row Store RequestPoint).session i) := fun i => ⟨rfl, trivial⟩
    by_cases hfree : KeyFree key s
    · exact .untouched hidle hfree rfl rfl
    · unfold KeyFree at hfree
      push Not at hfree
      obtain ⟨r, hr, hkey⟩ := hfree
      refine .settled r.id (fun i => .inl (hidle i)) ⟨⟨r, hr, hkey, rfl⟩, fun r' hr' hkey' => ?_⟩
        (Nat.zero_le 1) (Nat.zero_le 1)
      rw [hunique r' hr' r hr hkey' hkey]
  have hstep : ∀ (trace : List (ι × Event)) (w : World ι Row Store RequestPoint) (i : ι),
      Phase calls key trace w → True →
        Phase calls key
          (trace ++ (interleaved fun i => requestCode env settings (calls i)).log w i)
          ((interleaved fun i => requestCode env settings (calls i)).next w i) :=
    fun trace w i h _ => phase_step hcall h (fire_fired _ w i)
  exact Machine.inv_run_trace hstep hopen (Machine.along_of_forall fun _ _ _ => trivial)

end Phases

/-! ### What the callers see -/

/-- What the requests with a key have done together: at most one row, one reservation and one
gateway call, and whoever is given an operation is given that row. -/
structure HandledOnce {ι : Type*} (key : String) (trace : List (ι × Event))
    (w : World ι Row Store RequestPoint) : Prop where
  row : ∀ r ∈ w.committed.operations.rows, ∀ r' ∈ w.committed.operations.rows,
    r.idempotencyKey = key → r'.idempotencyKey = key → r = r'
  reservation : reservations trace ≤ 1
  call : gatewayCalls trace ≤ 1
  returned : ∀ i op, (w.session i).point = .returned op →
    ∃ r ∈ w.committed.operations.rows, r.idempotencyKey = key ∧ r.id = op.id

theorem handledOnce_of_phase {ι : Type*} {calls : ι → RequestCall} {key : String}
    {trace : List (ι × Event)} {w : World ι Row Store RequestPoint} (h : Phase calls key trace w) :
    HandledOnce key trace w := by
  have hidle {x : Session Store RequestPoint} (h : Idle x) (op : FinancialOperation) :
      x.point ≠ .returned op := by
    intro hpoint
    have hwaiting := h.2
    rw [hpoint] at hwaiting
    exact hwaiting
  cases h with
  | untouched hall hfree hreservations hcalls =>
    exact ⟨fun r hr _ _ hkey _ => absurd hkey (hfree r hr), hreservations.le.trans zero_le_one,
      hcalls.le.trans zero_le_one, fun i op hpoint => absurd hpoint (hidle (hall i) op)⟩
  | held i hothers hfree hlock hkey hholding =>
    have hcounts := holding_counts hholding
    refine ⟨fun r hr _ _ hkey _ => absurd hkey (hfree r hr), hcounts.1, hcounts.2.1,
      fun j op hpoint => ?_⟩
    by_cases hj : j = i
    · subst hj
      exact absurd hpoint (hcounts.2.2 op)
    · exact absurd hpoint (hidle (hothers j hj) op)
  | settled id hanswered hkey hreservations hcalls =>
    refine ⟨fun r hr r' hr' hk hk' => ?_, hreservations, hcalls, fun i op hpoint => ?_⟩
    · exact Table.eq_of_key_eq hr hr' ((hkey.only r hr hk).trans (hkey.only r' hr' hk').symm)
    · rcases hanswered i with hi | ⟨-, op', hpoint', hid⟩
      · exact absurd hpoint (hidle hi op)
      · rw [hpoint] at hpoint'
        cases hpoint'
        obtain ⟨r, hr, hk, hrid⟩ := hkey.row
        exact ⟨r, hr, hk, hrid.trans hid.symm⟩

namespace Sample

open ControlPlane.Sample OperationSessions.Sample

/-- The sample mandate and another one of the same agent. -/
def twoMandates : Store :=
  { store with mandates := ⟨[mandate, { mandate with id := "mnd_2" }], by decide⟩ }

/-- Two requests with one key, under different mandates and for different amounts. -/
def racing : Bool → RequestCall
  | true => callA
  | false =>
    { callA with
      payload := { orderB with
        idempotencyKey := "operation_A"
        key_length := length_A
        mandateId := "mnd_2" }
      inputs := inputs "operation_B" "order_B" 400 }

def isRefused : RequestPoint → Bool
  | .refused _ => true
  | _ => false

/-- Turn by turn to the end: both find the key free and lock their mandates, and the second waits
for the row of the first to be committed. -/
def turns : List Bool := (List.replicate 14 [true, false]).flatten

end Sample

end MandatePlane.IdempotentRequests

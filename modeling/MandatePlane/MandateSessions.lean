import MandatePlane.MandateSteps
import MandatePlane.ControlPlane
import MandatePlane.OperationSessions

/-!
# Delegations and cascades, statement by statement

The two endpoints that act on the delegation tree as programs of a database session.  A
delegation locks its parent's row with the first statement and keeps it to the commit.
A cascade reads row after row and child list after child list without a lock, marks the
rows in memory and writes them all with the flush before its commit.

What a delegation writes to its parent, and a cascade to the rows it has read, are the
values it has computed from its own reads.  By itself, each program is the endpoint.
-/

namespace MandatePlane.MandateSessions

open DomainModel KeyedTable LabelledRun HostEnvironment ControlPlane MandateRoutes MandateSteps
open ReadCommitted OperationSessions

structure DelegateCall where
  parentId : String
  payload : MandateDelegateRequest
  id : GeneratedId
  now : DateTime

/-- A suspension or a revocation. -/
structure CascadeCall where
  revoke : Bool
  mandateId : String
  reason : Option String

def CascadeCall.status (call : CascadeCall) : MandateStatus :=
  if call.revoke then .revoked else .suspended

def CascadeCall.text (call : CascadeCall) : String :=
  textOr call.reason
    (if call.revoke then "Parent mandate permanently revoked" else "Parent mandate suspended")

/-- The loop of the cascade between two statements: the queue, the ids that have been dequeued, the
rows in the session's memory (newest copy first) and the audit rows to insert. -/
structure CascadeState where
  rootId : String
  queue : List String
  visited : List String
  copies : List Mandate
  audits : List AuditEvent

inductive MandatePoint where
  | lockParent (call : DelegateCall)
  | loadAgent (call : DelegateCall) (parent : Mandate)
  | flushChild (call : DelegateCall) (parent : Mandate) (currency : String)
  | read (call : CascadeCall)
  | load (call : CascadeCall) (id : String) (state : CascadeState)
  | children (call : CascadeCall) (id : String) (state : CascadeState)
  | flushMarked (call : CascadeCall) (state : CascadeState)
  | finish
  | returned
  | raised (refusal : Refusal)
  | refused (refusal : Refusal)

/-! ### A delegation -/

/-- The UPDATE of the parent, with the values computed from the row as it was locked. -/
def setAllocation (parent : Mandate) (budget : ℤ) (row : Mandate) : Mandate :=
  { row with
    delegatedChildBudgetAllocated := parent.delegatedChildBudgetAllocated + budget
    version := parent.version + 1 }

/-- The child a delegation inserts. -/
def DelegateCall.child (call : DelegateCall) (parent : Mandate) (currency : String) : Mandate :=
  childMandate call.payload parent currency call.id.text call.now

/-- The flush of a delegation, unless the child's id is taken. -/
def delegateRows (call : DelegateCall) (parent : Mandate) (currency : String) (s : Store) :
    Option Store :=
  let s := s.updateMandate parent.id (setAllocation parent call.payload.aggregateSpendLimit)
  (s.mandates.insert (call.child parent currency)).map fun mandates =>
    { s with mandates }.audit (delegatedAudit parent (call.child parent currency))

section Delegation

variable {s s' : Store} {call : DelegateCall} {parent : Mandate} {currency : String}

/-- The commit of a delegation: the parent's allocation and one more row below it. -/
theorem delegateRows_eq_some
    (hfree : s.mandates.find? call.id.text = none) :
    ∃ s', delegateRows call parent currency s = some s' ∧
      (s.mandates.modify parent.id (setAllocation parent call.payload.aggregateSpendLimit)).insert
        (call.child parent currency) = some s'.mandates := by
  have hnew : (s.mandates.modify parent.id
      (setAllocation parent call.payload.aggregateSpendLimit)).find? call.id.text = none :=
    Table.find?_modify_eq_none.mpr hfree
  cases hinsert : (s.mandates.modify parent.id
      (setAllocation parent call.payload.aggregateSpendLimit)).insert
        (call.child parent currency) with
  | none =>
    obtain ⟨r', hr'⟩ := Table.insert_eq_none_iff.mp hinsert
    have hr : (s.mandates.modify parent.id
      (setAllocation parent call.payload.aggregateSpendLimit)).find? call.id.text = some r' := hr'
    rw [hnew] at hr
    cases hr
  | some mandates =>
    refine ⟨{ s with mandates }.audit (delegatedAudit parent (call.child parent currency)), ?_, rfl⟩
    unfold delegateRows Store.updateMandate
    dsimp only
    rw [hinsert]
    rfl

/-- A delegation that could flush has a free id. -/
theorem delegateRows_free (h : delegateRows call parent currency s = some s') :
    s.mandates.find? call.id.text = none := by
  obtain ⟨mandates, hinsert, -⟩ := Option.map_eq_some_iff.mp h
  have hnew : (s.mandates.modify parent.id
      (setAllocation parent call.payload.aggregateSpendLimit)).find? call.id.text = none :=
    (Table.insert_eq_some_iff.mp hinsert).1
  exact Table.find?_modify_eq_none.mp hnew

end Delegation

/-! ### A cascade -/

/-- `while queue:` dequeues the next id, or the loop is over and the session is flushed. -/
def resume (call : CascadeCall) (state : CascadeState) : MandatePoint :=
  match state.queue with
  | [] => .flushMarked call state
  | id :: queue => .load call id { state with queue }

/-- A row has been loaded and is marked. -/
def CascadeState.mark (call : CascadeCall) (m : Mandate) (state : CascadeState) : CascadeState :=
  { state with
    copies := withStatus call.status call.text m :: state.copies
    audits := state.audits ++ [cascadeAudit state.rootId call.status call.text m] }

/-- The UPDATE of a marked row, with the values of the copy. -/
def setMarked (copy row : Mandate) : Mandate :=
  { row with
    status := copy.status
    suspensionReason := copy.suspensionReason
    version := copy.version }

/-- The UPDATEs of the flush.  The newest copy of a row is the one that counts. -/
def writeCopies (copies : List Mandate) (s : Store) : Store :=
  copies.foldr (fun copy s => s.updateMandate copy.id (setMarked copy)) s

def flushRows (state : CascadeState) (s : Store) : Store :=
  let s := writeCopies state.copies s
  { s with auditEvents := s.auditEvents ++ state.audits }

/-- The statement at each point of a delegation or a cascade. -/
def mandateCode (env : Platform) : MandatePoint → Stmt Store Row Event MandatePoint
  -- `SELECT ... FOR UPDATE`
  | .lockParent call => .exec (fun s => ((s.mandates.find? call.parentId).map
      fun m => Row.mandate m.id).toList) fun s =>
    match s.mandates.find? call.parentId with
    | none => ⟨id, [], .raised (.http 404 "Parent mandate not found")⟩
    | some parent =>
      if parent.status = .active then ⟨id, [], .loadAgent call parent⟩
      else ⟨id, [], .raised (.http 400
        s!"Cannot delegate from parent mandate in status '{parent.status.value}'")⟩
  | .loadAgent call parent => .look fun s =>
    match s.agents.find? call.payload.targetAgentId with
    | none => .raised (.http 404 "Target child agent not found")
    | some _ =>
      match validateDelegationInvariants env parent call.payload with
      | .error refusal => .raised refusal
      | .ok currency => .flushChild call parent currency
  | .flushChild call parent currency =>
    .exec (fun _ => [.mandate parent.id, .mandate call.id.text]) fun s =>
      match delegateRows call parent currency s with
      | none => ⟨id, [], .raised .serverError⟩
      | some _ => ⟨fun s => (delegateRows call parent currency s).getD s,
        [.issued (call.child parent currency)], .finish⟩
  | .read call => .look fun s =>
    match s.mandates.find? call.mandateId with
    | none => .raised (.http 404 "Mandate not found")
    | some mandate => resume call ⟨mandate.id, [mandate.id], [], [mandate], []⟩
  -- `db.get`, which asks the database only for a row that is not in memory
  | .load call id state => .look fun s =>
    match (state.copies.find? fun m => m.id = id).orElse fun _ => s.mandates.find? id with
    | none => .children call id state
    | some m => .children call id (state.mark call m)
  | .children call id state => .look fun s =>
    let visited := id :: state.visited
    resume call { state with
      visited
      queue := state.queue ++ (childIds s.mandates id).filter (· ∉ visited) }
  | .flushMarked _ state =>
    .exec (fun _ => state.copies.map fun m => .mandate m.id) fun _ =>
      ⟨flushRows state, [], .finish⟩
  | .finish => .commit .returned
  | .raised refusal => .rollback (.refused refusal)
  | .returned => .stop
  | .refused _ => .stop

/-- How a delegation or a cascade ends. -/
def mandateAnswer : Except Refusal (Committed Mandate) → MandatePoint
  | .ok _ => .returned
  | .error refusal => .refused refusal

section Solo

variable {env : Platform} {s : Store}

/-- **By itself a delegation is `POST /mandates/{parent_id}/delegate`.** -/
theorem ends_delegate {call : DelegateCall} :
    Ends (mandateCode env) s (.lockParent call) id
      (outcome s (delegateChildMandate env call.parentId call.payload call.id.text call.now s)).2
      (outcome s (delegateChildMandate env call.parentId call.payload call.id.text call.now s)).1
      (mandateAnswer (delegateChildMandate env call.parentId call.payload call.id.text call.now
        s)) := by
  unfold delegateChildMandate
  simp only [bind, Except.bind]
  cases hparent : s.mandates.find? call.parentId with
  | none => exact .ran rfl (by simp only [id, hparent]; rfl) (.rollback rfl (.stop rfl)) rfl
  | some parent =>
  by_cases hactive : parent.status = .active
  swap
  · simp only [orRefuse, hactive, decide_false, ensure]
    exact .ran rfl (by simp only [id, hparent, if_neg hactive]; rfl)
      (.rollback rfl (.stop rfl)) rfl
  simp only [orRefuse, hactive, decide_true, ensure, if_true]
  refine .ran rfl (by simp only [id, hparent, if_pos hactive]; rfl) ?_ (List.nil_append _).symm
  cases hagent : s.agents.find? call.payload.targetAgentId with
  | none =>
    exact .ran rfl (by simp only [id, Function.comp, hagent]; rfl) (.rollback rfl (.stop rfl)) rfl
  | some agent =>
  cases hvalid : validateDelegationInvariants env parent call.payload with
  | error refusal =>
    exact .ran rfl (by simp only [id, Function.comp, hagent, hvalid]; rfl)
      (.rollback rfl (.stop rfl)) rfl
  | ok currency =>
  refine .ran rfl (by simp only [id, Function.comp, hagent, hvalid]; rfl) ?_
    (List.nil_append _).symm
  have hkey : parent.id = call.parentId := Table.key_of_find? hparent
  have hrows : delegateRows call parent currency s =
      ((s.updateMandate call.parentId (allocate call.payload.aggregateSpendLimit)).mandates.insert
        (call.child parent currency)).map fun mandates =>
          { s with mandates }.audit (delegatedAudit parent (call.child parent currency)) := by
    unfold delegateRows
    rw [hkey]
    have hsame : s.updateMandate call.parentId
        (setAllocation parent call.payload.aggregateSpendLimit) =
        s.updateMandate call.parentId (allocate call.payload.aggregateSpendLimit) := by
      unfold Store.updateMandate
      rw [Table.modify_congr hparent]
      rfl
    rw [hsame]
    rfl
  cases hinsert : (s.updateMandate call.parentId
      (allocate call.payload.aggregateSpendLimit)).mandates.insert (call.child parent currency) with
  | none =>
    rw [hinsert] at hrows
    have hrefused : (s.updateMandate call.parentId
        (allocate call.payload.aggregateSpendLimit)).mandates.insert
          (childMandate call.payload parent currency call.id.text call.now) = none := hinsert
    simp only [hrefused]
    exact .ran rfl (by simp only [id, Function.comp, hrows]; rfl) (.rollback rfl (.stop rfl)) rfl
  | some mandates =>
    rw [hinsert] at hrows
    have hinserted : (s.updateMandate call.parentId
        (allocate call.payload.aggregateSpendLimit)).mandates.insert
          (childMandate call.payload parent currency call.id.text call.now) = some mandates :=
      hinsert
    simp only [hinserted]
    refine .ran rfl (by simp only [id, Function.comp, hrows]; rfl) ?_ rfl
    have hstore : (delegateRows call parent currency s).getD s =
        ({ s with mandates }.audit (delegatedAudit parent (call.child parent currency))) := by
      rw [hrows]
      rfl
    have hcommit : Ends (mandateCode env) s .finish
        (fun s => (delegateRows call parent currency s).getD s) []
        ((delegateRows call parent currency s).getD s) .returned := .commit rfl (.stop rfl)
    rw [hstore] at hcommit
    exact hcommit

/-! A cascade by itself: what it has in memory is what the endpoint has written so far. -/

/-- The copies of a session that nobody disturbs differ from the rows in what it has marked. -/
def CopiesOf (s : Store) (copies : List Mandate) : Prop :=
  ∀ m ∈ copies, ∃ row, s.mandates.find? m.id = some row ∧ setMarked m row = m

theorem writeCopies_find? {copies : List Mandate} (h : CopiesOf s copies) (id : String) :
    (writeCopies copies s).mandates.find? id =
      (copies.find? fun m => m.id = id).orElse fun _ => s.mandates.find? id := by
  induction copies with
  | nil => rfl
  | cons m copies ih =>
    have hrest : CopiesOf s copies := fun m' hm' => h m' (List.mem_cons_of_mem _ hm')
    obtain ⟨row, hrow, hm⟩ := h m List.mem_cons_self
    show ((writeCopies copies s).mandates.modify m.id (setMarked m)).find? id = _
    rw [Table.find?_modify]
    by_cases hid : id = m.id
    · subst hid
      rw [if_pos rfl, ih hrest, List.find?_cons_of_pos (by simp)]
      -- an older copy of the row only differs in what `m` overwrites
      cases hold : copies.find? fun m' => m'.id = m.id with
      | none =>
        show (s.mandates.find? m.id).map (setMarked m) = some m
        rw [hrow, Option.map_some, hm]
      | some m' =>
        obtain ⟨row', hrow', hm'⟩ := hrest m' (List.mem_of_find?_eq_some hold)
        have hsame : m'.id = m.id := by simpa using List.find?_some hold
        rw [hsame, hrow] at hrow'
        cases hrow'
        show some (setMarked m m') = some m
        rw [← hm', ← hm]
        rfl
    · have hne : ¬ m.id = id := fun he => hid he.symm
      rw [if_neg hid, ih hrest, List.find?_cons_of_neg (by simpa using hne)]

/-- Marking a row in memory is what the endpoint's loop does to the store. -/
theorem flushRows_mark {call : CascadeCall} {state : CascadeState} {id : String} {m : Mandate}
    (h : CopiesOf s state.copies)
    (hm : ((state.copies.find? fun m => m.id = id).orElse fun _ => s.mandates.find? id) = some m) :
    flushRows (state.mark call m) s =
        cascadeOne state.rootId call.status call.text id (flushRows state s) ∧
      CopiesOf s (state.mark call m).copies := by
  have hfind : (flushRows state s).mandates.find? id = some m :=
    (writeCopies_find? h id).trans hm
  have hkey : m.id = id := Table.key_of_find? hfind
  constructor
  · have hwrite : (writeCopies state.copies s).mandates.modify m.id
        (setMarked (withStatus call.status call.text m)) =
        (writeCopies state.copies s).mandates.modify id (withStatus call.status call.text) := by
      subst hkey
      exact Table.modify_congr hfind rfl
    unfold cascadeOne
    rw [hfind]
    show ({ writeCopies state.copies s with
        mandates := (writeCopies state.copies s).mandates.modify m.id
          (setMarked (withStatus call.status call.text m))
        auditEvents := (writeCopies state.copies s).auditEvents ++ (state.audits ++
          [cascadeAudit state.rootId call.status call.text m]) } : Store) = _
    rw [hwrite, ← List.append_assoc]
    rfl
  · intro m' hm'
    rcases List.mem_cons.mp hm' with rfl | hm'
    · cases hcopy : state.copies.find? fun m => m.id = id with
      | none =>
        rw [hcopy] at hm
        exact ⟨m, hkey.symm ▸ hm, rfl⟩
      | some copy =>
        rw [hcopy] at hm
        cases hm
        obtain ⟨row, hrow, hsame⟩ := h m (List.mem_of_find?_eq_some hcopy)
        refine ⟨row, hrow, ?_⟩
        rw [← hsame]
        rfl
    · exact h m' hm'

/-- A loop with nothing left to visit commits. -/
theorem ends_resume_drained {call : CascadeCall} {state : CascadeState} (hqueue : state.queue = []) :
    Ends (mandateCode env) s (resume call state) id [] (flushRows state s) .returned := by
  rw [resume, hqueue]
  exact .ran rfl rfl (.commit rfl (.stop rfl)) rfl

/-- The rounds of the loop, from any of them to the commit. -/
theorem ends_resume {call : CascadeCall} {fuel : ℕ} {state : CascadeState} {s' : Store}
    (hcopies : CopiesOf s state.copies) (hterms : LedgerView.terms (flushRows state s) =
      LedgerView.terms s)
    (hloop : cascadeLoop state.rootId call.status call.text fuel state.queue state.visited
      (flushRows state s) = some s') :
    Ends (mandateCode env) s (resume call state) id [] s' .returned := by
  induction fuel generalizing state with
  | zero =>
    cases hqueue : state.queue with
    | nil =>
      rw [hqueue] at hloop
      cases hloop
      exact ends_resume_drained hqueue
    | cons id queue =>
      rw [hqueue] at hloop
      cases hloop
  | succ fuel ih =>
    cases hqueue : state.queue with
    | nil =>
      rw [hqueue] at hloop
      cases hloop
      exact ends_resume_drained hqueue
    | cons currId queue =>
      rw [hqueue, cascadeLoop] at hloop
      rw [resume, hqueue]
      have hone : LedgerView.terms (cascadeOne state.rootId call.status call.text currId
          (flushRows state s)) = LedgerView.terms s :=
        (cascadeOne_statusOnly _ _ _ _ _).terms.trans hterms
      have hchildren : childIds (cascadeOne state.rootId call.status call.text currId
          (flushRows state s)).mandates currId = childIds s.mandates currId := by
        rw [← childIds_terms, hone, childIds_terms]
      rw [hchildren] at hloop
      -- the children are read from the rows that nobody has written
      have hround {state' : CascadeState} (hcopies' : CopiesOf s state'.copies)
          (hrows : flushRows state' s =
            cascadeOne state.rootId call.status call.text currId (flushRows state s))
          (hroot : state'.rootId = state.rootId) (hqueue' : state'.queue = queue)
          (hvisited' : state'.visited = state.visited) :
          Ends (mandateCode env) s (.children call currId state') id [] s' .returned := by
        refine .ran rfl rfl ?_ rfl
        refine @ih { state' with
          visited := currId :: state'.visited
          queue := state'.queue ++
            (childIds s.mandates currId).filter (· ∉ currId :: state'.visited) } hcopies' ?_ ?_
        · exact (congrArg LedgerView.terms hrows).trans hone
        · show cascadeLoop state'.rootId _ _ _ _ _ (flushRows state' s) = _
          rw [hrows, hroot, hqueue', hvisited']
          exact hloop
      cases hm : (state.copies.find? fun m => m.id = currId).orElse
          fun _ => s.mandates.find? currId with
      | none =>
        refine .ran rfl (by simp only [id, hm]; rfl) ?_ (List.nil_append _).symm
        have hnone : (flushRows state s).mandates.find? currId = none :=
          (writeCopies_find? hcopies currId).trans hm
        refine @hround { state with queue } hcopies ?_ rfl rfl rfl
        unfold cascadeOne
        rw [hnone]
        rfl
      | some m =>
        refine .ran rfl (by simp only [id, hm]; rfl) ?_ (List.nil_append _).symm
        obtain ⟨hrows, hcopies'⟩ := @flushRows_mark s call { state with queue } currId m hcopies hm
        exact hround hcopies' hrows rfl rfl rfl

/-- The endpoint a cascade is a call of. -/
def cascadeEndpoint (call : CascadeCall) : Store → Except Refusal (Committed Mandate) :=
  if call.revoke then revokeMandateCascade call.mandateId call.reason
  else suspendMandateCascade call.mandateId call.reason

/-- **By itself a cascade is `POST /mandates/{mandate_id}/suspend` or `/revoke`.** -/
theorem ends_cascade {call : CascadeCall} :
    Ends (mandateCode env) s (.read call) id (outcome s (cascadeEndpoint call s)).2
      (outcome s (cascadeEndpoint call s)).1 (mandateAnswer (cascadeEndpoint call s)) := by
  have hendpoint : ∃ defaultReason, cascadeEndpoint call s =
      changeStatusCascade call.status defaultReason call.mandateId call.reason s ∧
        textOr call.reason defaultReason = call.text := by
    unfold cascadeEndpoint CascadeCall.status CascadeCall.text
    cases call.revoke with
    | true => exact ⟨_, rfl, rfl⟩
    | false => exact ⟨_, rfl, rfl⟩
  obtain ⟨defaultReason, hendpoint, htext⟩ := hendpoint
  rw [hendpoint, changeStatusCascade]
  simp only [bind, Except.bind]
  cases hfind : s.mandates.find? call.mandateId with
  | none => exact .ran rfl (by simp only [id, hfind]; rfl) (.rollback rfl (.stop rfl)) rfl
  | some mandate =>
    refine .ran rfl (by simp only [id, hfind]; rfl) ?_ rfl
    have hkey : mandate.id = call.mandateId := Table.key_of_find? hfind
    obtain ⟨visited, s', hs', hcascaded⟩ := @cascadeMandateStatus_spec call.mandateId call.status s
      mandate hfind call.text
    have hloop : cascadeMandateStatus mandate.id call.status (textOr call.reason defaultReason) s =
        some s' := by
      rw [hkey, htext, hs']
    simp only [orRefuse, hloop]
    -- the row that has been read is not marked yet
    have hstart : flushRows ⟨mandate.id, [mandate.id], [], [mandate], []⟩ s = s := by
      have hsame : s.mandates.modify mandate.id (setMarked mandate) = s.mandates :=
        Table.modify_of_eq (hkey.symm ▸ hfind) rfl
      show ({ s with
        mandates := s.mandates.modify mandate.id (setMarked mandate)
        auditEvents := s.auditEvents ++ [] } : Store) = s
      rw [hsame, List.append_nil]
    refine @ends_resume env s call (s.mandates.rows.length + 1)
      ⟨mandate.id, [mandate.id], [], [mandate], []⟩ s' ?_ ?_ ?_
    · intro m hm
      rw [List.mem_singleton.mp hm]
      exact ⟨mandate, hkey.symm ▸ hfind, rfl⟩
    · rw [hstart]
    · rw [hstart, ← hs']
      show cascadeMandateStatus mandate.id call.status call.text s = _
      rw [hkey]

end Solo

end MandatePlane.MandateSessions

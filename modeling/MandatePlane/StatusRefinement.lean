import MandatePlane.PaymentEvidence

/-!
# The handlers and the formal state machine

Of the places that write an operation's status only one asks the state machine.  The
others are judged by what they post: every posting of the handlers is a transition of
the matrix, except the reservation of a request that was allowed at once, which leaves
INITIATED for RESERVED past POLICY_APPROVED, and the verification of a payment, which
leaves any status.  Runs without the two refine the state machine, and no others do.
-/

namespace MandatePlane.StatusRefinement

open DomainModel KeyedTable LabelledRun LedgerView HostEnvironment HandlerPostings
open ControlPlane OperationRoutes StateMachine PaymentEvidence

/-- A status write leads from the status that is stored along the matrix. -/
def Allowed (L : Books) : Event → Prop
  | .posted op target _ _ => ∃ hold, L.holds.find? op.id = some hold ∧
      canTransition hold.phase target = true
  | _ => True

/-- The writes of a step lead from the stored statuses before it to those after it, each along the
matrix. -/
def Refines (env : Platform) (settings : Settings) (s : Store) (a : Action) : Prop :=
  ledger ((controlPlane env settings).next s a) =
      eventBook.run (ledger s) ((controlPlane env settings).log s a) ∧
    eventBook.Along Allowed (ledger s) ((controlPlane env settings).log s a)

/-- No request is allowed to reserve at once, and a payment is verified for an operation that waits
for it or has it. -/
def Conforms (env : Platform) (settings : Settings) (s : Store) : Action → Prop
  | .request payload headers inputs => ∀ agent mandate,
      ¬ Permitted env settings s payload headers inputs agent mandate
  | .verify operationId payload => ∀ op tx, Verified env settings s operationId payload op tx →
      op.status.inFlight = true ∨ op.status = .succeeded
  | _ => True

/-! ### Postings and the matrix -/

/-- **All postings but one are transitions of the matrix.** -/
theorem Posting.canTransition {acc : Option (HoldLedger.Account String ℤ)} {amount : ℤ}
    {source target : OperationStatus} {dReserved dCommitted : ℤ}
    (h : Posting acc amount source target dReserved dCommitted) :
    canTransition source target = true ∨ source = .initiated ∧ target = .reserved := by
  have hsettle (h : source.inFlight = true) : StateMachine.canTransition source .succeeded = true ∧
      StateMachine.canTransition source .failed = true := by
    cases source <;> revert h <;> decide
  cases h with
  | reject h => rcases h with rfl | rfl <;> exact .inl rfl
  | park => exact .inl rfl
  | reserve h _ _ =>
    rcases h with rfl | rfl
    · exact .inr ⟨rfl, rfl⟩
    · exact .inl rfl
  | execute => exact .inl rfl
  | commit h => exact .inl (hsettle h).1
  | release h => exact .inl (hsettle h).2
  | commitUncovered h _ _ => exact .inl (hsettle h).1
  | releaseUncovered h _ _ => exact .inl (hsettle h).2
  | commitUnfunded h _ => exact .inl (hsettle h).1
  | releaseUnfunded h _ => exact .inl (hsettle h).2

theorem allowed_of_rule {L : Books} {e : Event} (hr : EventRule L e)
    (hnot : ∀ op dReserved dCommitted, e = .posted op .reserved dReserved dCommitted →
      op.status ≠ .initiated) : Allowed L e := by
  cases e with
  | posted op target dReserved dCommitted =>
    obtain ⟨hfind, hposting⟩ := hr
    refine ⟨operationHold op, hfind, ?_⟩
    rcases Posting.canTransition hposting with h | ⟨hsource, rfl⟩
    · exact h
    · exact absurd hsource (hnot op _ _ rfl)
  | issued _ => trivial
  | opened _ => trivial
  | credited _ _ => trivial
  | gatewayCall _ _ => trivial

/-- An allowed write leaves a terminal status as it is. -/
theorem terminal_allowed {L : Books} {e : Event} {id : String} {status : OperationStatus}
    (ht : Terminal status) (ha : Allowed L e)
    (hfind : ∃ hold, L.holds.find? id = some hold ∧ hold.phase = status) :
    ∃ hold, (L.enter (entry e)).holds.find? id = some hold ∧ hold.phase = status := by
  obtain ⟨hold, hfind, rfl⟩ := hfind
  cases e with
  | issued _ => exact ⟨hold, hfind, rfl⟩
  | credited _ _ => exact ⟨hold, hfind, rfl⟩
  | gatewayCall _ _ => exact ⟨hold, hfind, rfl⟩
  | opened op => exact ⟨hold, HoldLedger.holds_enter_hold hfind, rfl⟩
  | posted op target dReserved dCommitted =>
    have hmoved : (L.enter (entry (.posted op target dReserved dCommitted))).holds.find? id =
        if id = op.id then (L.holds.find? op.id).map (HoldLedger.Hold.moveTo target)
        else L.holds.find? id :=
      HoldLedger.holds_enter_post L op.id id op.mandateId target dReserved dCommitted
    obtain ⟨hold', hfind', hcan⟩ := ha
    by_cases hid : id = op.id
    · rw [← hid, hfind] at hfind'
      cases hfind'
      rw [if_pos hid, ← hid, hfind] at hmoved
      exact ⟨_, hmoved, (canTransition_of_terminal ht).mp hcan⟩
    · rw [if_neg hid, hfind] at hmoved
      exact ⟨hold, hmoved, rfl⟩

variable {env : Platform} {settings : Settings} {s s' : Store} {a : Action} {events : List Event}

/-! ### One step -/

/-- Only a permitted request reserves from INITIATED. -/
theorem conforms_reserved (h : Step env settings s a events s')
    (hconforms : Conforms env settings s a) :
    ∀ e ∈ events, ∀ op dReserved dCommitted, e = .posted op .reserved dReserved dCommitted →
      op.status ≠ .initiated := by
  rintro e he op dReserved dCommitted rfl
  rcases h.dispatch_cases with ⟨payload, headers, inputs, agent, mandate, result, rfl, hreq⟩ |
    ⟨operationId, approval, now, gateway, op₀, mandate, rfl, hfound, hstatus, hmandate, happ⟩ |
    hsettling
  · obtain ⟨-, -, agent, mandate, hpermitted⟩ :=
      permitted_of_dispatch h (.inl ⟨dReserved, dCommitted, he⟩)
    exact absurd hpermitted (hconforms agent mandate)
  · cases happ with
    | rejected _ _ => simp at he
    | dispatched happroved hroom done hdone =>
      subst hdone
      rcases List.mem_cons.mp he with he | he
      · cases he
        rw [hstatus]
        decide
      · rcases executeGatewayOperation_events he with ⟨_, -, h⟩ | h | h | h <;> cases h
  · rcases hsettling _ he with h | h <;> cases h

/-- The log of a verification is empty or its one commit. -/
theorem verify_log {operationId : String} {payload : PaymentVerifyRequest}
    (h : Step env settings s (.verify operationId payload) events s') :
    events = [] ∨ ∃ op tx, Verified env settings s operationId payload op tx ∧
      events = [.posted op .succeeded (-op.amount) op.amount] := by
  cases h with
  | refused => exact .inl rfl
  | verified hv _ _ _ _ _ => exact .inr ⟨_, _, hv, rfl⟩

/-- **One step refines the state machine exactly if it conforms.** -/
theorem refines_iff : Refines env settings s a ↔ Conforms env settings s a := by
  have hstep := perform_step env settings s a
  constructor
  · rintro ⟨-, hallowed⟩
    cases a with
    | request payload headers inputs =>
      intro agent mandate hpermitted
      obtain ⟨op, hm, hinitiated, -, -⟩ := reserves_of_permitted hpermitted
      have hboth := Machine.along_and hallowed (hstep.ruled trivial)
      obtain ⟨L, ⟨hold, hfind, hcan⟩, hfind', -⟩ := Machine.exists_of_along hboth hm
      rw [hfind'] at hfind
      cases hfind
      have hcan : canTransition op.status .reserved = true := hcan
      rw [hinitiated] at hcan
      exact absurd hcan (by decide)
    | verify operationId payload =>
      intro op tx hv
      have hm : .posted op .succeeded (-op.amount) op.amount ∈
        (controlPlane env settings).log s (.verify operationId payload) := settles_iff.mpr ⟨tx, hv⟩
      rcases verify_log hstep with hnone | ⟨op', -, -, hone⟩
      · rw [show (controlPlane env settings).log s (.verify operationId payload) = [] from hnone] at hm
        cases hm
      have hlog : (controlPlane env settings).log s (.verify operationId payload) =
        [.posted op' .succeeded (-op'.amount) op'.amount] := hone
      rw [hlog] at hm hallowed
      cases List.mem_singleton.mp hm
      obtain ⟨hold, hfind, hcan⟩ := hallowed.1
      rw [holds_find?, hv.self] at hfind
      cases hfind
      exact canTransition_succeeded.mp hcan
    | approve _ _ _ _ => trivial
    | webhook _ => trivial
    | sweep _ => trivial
    | create _ _ _ => trivial
    | delegate _ _ _ _ => trivial
    | suspend _ _ => trivial
    | revoke _ _ => trivial
    | activate _ => trivial
    | agentStatus _ _ _ => trivial
  · intro hconforms
    refine ⟨hstep.books, ?_⟩
    have hruled (hr : eventBook.Along EventRule (ledger s) (perform env settings s a).2) :
        eventBook.Along Allowed (ledger s) (perform env settings s a).2 :=
      Machine.along_mono (fun _ _ h => allowed_of_rule h.1 h.2) (Machine.along_and hr
        (Machine.along_of_forall fun e he _ => conforms_reserved hstep hconforms e he))
    cases a with
    | verify operationId payload =>
      show eventBook.Along Allowed (ledger s) (perform env settings s (.verify operationId payload)).2
      rcases verify_log hstep with hnone | ⟨op, tx, hv, hone⟩
      · rw [hnone]
        trivial
      · rw [hone]
        refine ⟨⟨_, (holds_find? s _).trans (congrArg _ hv.self), ?_⟩, trivial⟩
        exact canTransition_succeeded.mpr (hconforms op tx hv)
    | request _ _ _ => exact hruled (hstep.ruled trivial)
    | approve _ _ _ _ => exact hruled (hstep.ruled trivial)
    | webhook _ => exact hruled (hstep.ruled trivial)
    | sweep _ => exact hruled (hstep.ruled trivial)
    | create _ _ _ => exact hruled (hstep.ruled trivial)
    | delegate _ _ _ _ => exact hruled (hstep.ruled trivial)
    | suspend _ _ => exact hruled (hstep.ruled trivial)
    | revoke _ _ => exact hruled (hstep.ruled trivial)
    | activate _ => exact hruled (hstep.ruled trivial)
    | agentStatus _ _ _ => exact hruled (hstep.ruled trivial)

/-- A step that refines keeps terminal statuses. -/
theorem terminal_kept_refines {id : String} {status : OperationStatus} (ht : Terminal status)
    (hrefines : Refines env settings s a)
    (hop : ∃ op, s.operations.find? id = some op ∧ op.status = status) :
    ∃ op, ((controlPlane env settings).next s a).operations.find? id = some op ∧
      op.status = status := by
  obtain ⟨op, hop, hstatus⟩ := hop
  have hhold : ∃ hold, (ledger s).holds.find? id = some hold ∧ hold.phase = status := by
    rw [holds_find?, hop]
    exact ⟨_, rfl, hstatus⟩
  have hstep : ∀ (L : Books) (e : Event),
      (∃ hold, L.holds.find? id = some hold ∧ hold.phase = status) → Allowed L e →
        ∃ hold, (eventBook.next L e).holds.find? id = some hold ∧ hold.phase = status :=
    fun _ _ hfind ha => terminal_allowed ht ha hfind
  obtain ⟨hold, hfind, hphase⟩ := Machine.inv_run hstep hhold hrefines.2
  rw [← hrefines.1, holds_find?] at hfind
  obtain ⟨op', hop', rfl⟩ := Option.map_eq_some_iff.mp hfind
  exact ⟨op', hop', hphase⟩

/-! ### Runs -/

/-- **Refinement.**  A run refines the state machine exactly if no request in it reserves at once
and no payment is verified for an operation that neither waits for it nor has it; and in such a run
SUCCEEDED, FAILED, CANCELLED and POLICY_REJECTED are absorbing. -/
theorem status_refines (env : Platform) (settings : Settings) (s : Store)
    (actions : List Action) :
    ((controlPlane env settings).Along (Refines env settings) s actions ↔
      (controlPlane env settings).Along (Conforms env settings) s actions) ∧
    ((controlPlane env settings).Along (Conforms env settings) s actions →
      ∀ before after, actions = before ++ after → ∀ id op,
        ((controlPlane env settings).run s before).operations.find? id = some op →
        op.status = .succeeded ∨ op.status = .failed ∨ op.status = .cancelled ∨
          op.status = .policyRejected →
        ∃ op', ((controlPlane env settings).run s actions).operations.find? id = some op' ∧
          op'.status = op.status) := by
  constructor
  · exact ⟨Machine.along_mono fun _ _ => refines_iff.mp, Machine.along_mono fun _ _ =>
      refines_iff.mpr⟩
  · rintro hconforms before after rfl id op hop hsettled
    have ht : Terminal op.status := by
      rcases hsettled with h | h | h | h <;> rw [h] <;> rfl
    rw [Machine.run_append]
    have hstep : ∀ (s : Store) (a : Action),
        (∃ op', s.operations.find? id = some op' ∧ op'.status = op.status) →
          Conforms env settings s a →
            ∃ op', ((controlPlane env settings).next s a).operations.find? id = some op' ∧
              op'.status = op.status :=
      fun _ _ hop hc => terminal_kept_refines ht (refines_iff.mpr hc) hop
    exact Machine.inv_run hstep ⟨op, hop, rfl⟩ (Machine.along_append.mp hconforms).2

/-- A request that is parked and then rejected. -/
theorem status_refines_rejected :
    (controlPlane Sample.platform Sample.settings).Along (Refines Sample.platform Sample.settings)
        Sample.reviewStore [Sample.requestA, Sample.approve "operation_A" "order_A" 600 false,
          Sample.deliver Sample.capturedA] ∧
      ∀ op, ((controlPlane Sample.platform Sample.settings).run Sample.reviewStore
          [Sample.requestA, Sample.approve "operation_A" "order_A" 600 false]).operations.find?
            "operation_A" = some op → op.status = .policyRejected →
        ∃ op', ((controlPlane Sample.platform Sample.settings).run Sample.reviewStore
          [Sample.requestA, Sample.approve "operation_A" "order_A" 600 false,
            Sample.deliver Sample.capturedA]).operations.find? "operation_A" = some op' ∧
          op'.status = op.status := by
  have hrefines := status_refines Sample.platform Sample.settings Sample.reviewStore
    [Sample.requestA, Sample.approve "operation_A" "order_A" 600 false,
      Sample.deliver Sample.capturedA]
  have hconforms : (controlPlane Sample.platform Sample.settings).Along
      (Conforms Sample.platform Sample.settings) Sample.reviewStore
      [Sample.requestA, Sample.approve "operation_A" "order_A" 600 false,
        Sample.deliver Sample.capturedA] := by
    refine ⟨fun agent mandate hpermitted => ?_, trivial, trivial, trivial⟩
    have hlog : ((controlPlane Sample.platform Sample.settings).log Sample.reviewStore
        Sample.requestA).all (fun
          | .posted _ target _ _ => target ≠ .reserved
          | _ => true) = true := by
      decide +kernel
    obtain ⟨op, hm, -, -, -⟩ := reserves_of_permitted hpermitted
    have hnot := of_decide_eq_true (List.all_eq_true.mp hlog _ hm)
    exact absurd rfl hnot
  exact ⟨hrefines.1.mpr hconforms, fun op hop hstatus => hrefines.2 hconforms
    [Sample.requestA, Sample.approve "operation_A" "order_A" 600 false]
    [Sample.deliver Sample.capturedA] rfl "operation_A" op hop (.inr (.inr (.inr hstatus)))⟩

/-- A request that is allowed leaves INITIATED for RESERVED, and the payment of a rejected operation
can be verified: it leaves POLICY_REJECTED for SUCCEEDED. -/
theorem not_refining_of_allowed_request :
    ¬ Refines Sample.platform Sample.settings Sample.store Sample.requestA ∧
      ((controlPlane Sample.platform Sample.settings).run Sample.reviewStore
          [Sample.requestA, Sample.approve "operation_A" "order_A" 600 false]).operations.rows.map
            (fun op => (op.id, op.status)) = [("operation_A", .policyRejected)] ∧
      ((controlPlane Sample.platform Sample.settings).run Sample.reviewStore
          [Sample.requestA, Sample.approve "operation_A" "order_A" 600 false,
            Sample.verifyA]).operations.rows.map
              (fun op => (op.id, op.status)) = [("operation_A", .succeeded)] := by
  refine ⟨fun h => ?_, by decide +kernel, by decide +kernel⟩
  obtain ⟨-, hallowed⟩ := h
  have hlog : ((controlPlane Sample.platform Sample.settings).log Sample.store
      Sample.requestA).any (fun
        | .posted op target _ _ => op.status = .initiated ∧ target = .reserved
        | _ => false) = true := by
    decide +kernel
  obtain ⟨e, hm, he⟩ := List.any_eq_true.mp hlog
  have hruled := (perform_step Sample.platform Sample.settings Sample.store
    Sample.requestA).ruled trivial
  obtain ⟨L, hallow, hrule⟩ := Machine.exists_of_along (Machine.along_and hallowed hruled) hm
  cases e with
  | posted op target dReserved dCommitted =>
    obtain ⟨hsource, rfl⟩ := of_decide_eq_true he
    obtain ⟨hold, hfind, hcan⟩ := hallow
    rw [hrule.1] at hfind
    cases hfind
    have hcan : canTransition op.status .reserved = true := hcan
    rw [hsource] at hcan
    exact absurd hcan (by decide)
  | issued _ => cases he
  | opened _ => cases he
  | credited _ _ => cases he
  | gatewayCall _ _ => cases he

end MandatePlane.StatusRefinement

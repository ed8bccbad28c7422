import MandatePlane.DeploymentInvariants

/-!
# Operations at rest

Between two calls an operation is in seven of the ten statuses only, and its status tells what it
is and what is stored of it: what is RESERVED has a type that the gateway execution has no branch
for, what is EXECUTING is an order or a payment link with its transaction, and what was rejected or
waits for an approval has no transaction.
-/

namespace MandatePlane.RestingOperations

open DomainModel KeyedTable HoldLedger LabelledRun LedgerView HostEnvironment HandlerPostings
open OperationRoutes MandateSteps ControlPlane AgentChat TransactionLinks Deployment
open DeploymentInvariants DemoRoutes
open RazorpayClient (GatewayAnswers)

/-- What the statuses at rest say about the operation and its links. -/
inductive AtRest (rows : List (String × Option String)) (id : String) (type : OperationType) :
    OperationStatus → Prop
  | rejected (hnone : ∀ link ∈ rows, link.1 ≠ id) : AtRest rows id type .policyRejected
  | waiting (hnone : ∀ link ∈ rows, link.1 ≠ id) : AtRest rows id type .requiresApproval
  | aside (htype : type = .capturePayment ∨ type = .cancelPaymentLink)
      (hnone : ∀ link ∈ rows, link.1 ≠ id) : AtRest rows id type .reserved
  | ordered (htype : type = .createOrder) (hlink : ∃ orderId, (id, some orderId) ∈ rows) :
      AtRest rows id type .executing
  | linked (htype : type = .createPaymentLink) (hlink : (id, none) ∈ rows) :
      AtRest rows id type .executing
  | settled : AtRest rows id type .succeeded
  | failed : AtRest rows id type .failed

/-- Every stored operation is at rest. -/
def Resting (s : Store) : Prop :=
  ∀ op ∈ s.operations.rows, AtRest (links s) op.id op.operationType op.status

theorem resting_empty {s : Store} (h : s.operations.rows = []) : Resting s := by
  intro op hop
  rw [h] at hop
  cases hop

/-- Other tables have no part in it. -/
theorem Resting.of_same {s s' : Store} (h : Resting s) (hoperations : s'.operations = s.operations)
    (htransactions : s'.transactions = s.transactions) : Resting s' := by
  unfold Resting links at h ⊢
  rw [hoperations, htransactions]
  exact h

section Rules

variable {rows : List (String × Option String)} {id : String} {type : OperationType}
  {status : OperationStatus} {s s' : Store} {events : List Event}

/-- A link of another operation changes nothing. -/
theorem AtRest.append (h : AtRest rows id type status) {link : String × Option String}
    (hne : link.1 ≠ id) : AtRest (rows ++ [link]) id type status := by
  have hnone (hrows : ∀ link ∈ rows, link.1 ≠ id) : ∀ l ∈ rows ++ [link], l.1 ≠ id := by
    intro l hl
    rcases List.mem_append.mp hl with hl | hl
    · exact hrows l hl
    · rw [List.mem_singleton.mp hl]
      exact hne
  cases h with
  | rejected h => exact .rejected (hnone h)
  | waiting h => exact .waiting (hnone h)
  | aside htype h => exact .aside htype (hnone h)
  | ordered htype hlink =>
    obtain ⟨orderId, hlink⟩ := hlink
    exact .ordered htype ⟨orderId, List.mem_append_left _ hlink⟩
  | linked htype hlink => exact .linked htype (List.mem_append_left _ hlink)
  | settled => exact .settled
  | failed => exact .failed

/-- An observation about this operation, or about none. -/
def About (id : String) : Event → Prop
  | .posted op _ _ _ => op.id = id
  | .opened op => op.id = id
  | _ => True

/-- The hold of an operation that a log does not speak of. -/
theorem phase_of_others {L : Books} {id' : String}
    {hold : Hold String String OperationStatus ℤ} (habout : ∀ e ∈ events, About id' e)
    (hne : id ≠ id') (h : (eventBook.run L events).holds.find? id = some hold) :
    ∃ before, L.holds.find? id = some before ∧ before.phase = hold.phase := by
  rw [eventBook_run] at h
  rcases phase_origin h with hbefore | ⟨acc, dReserved, dCommitted, hm⟩ | ⟨opened, hm, hid, -⟩
  · exact hbefore
  · obtain ⟨e, he, heq⟩ := List.mem_map.mp hm
    have hid := habout e he
    cases e with
    | posted op _ _ _ =>
      cases heq
      exact absurd hid hne
    | issued _ => cases heq
    | opened _ => cases heq
    | credited _ _ => cases heq
    | gatewayCall _ _ => cases heq
  · obtain ⟨e, he, heq⟩ := List.mem_map.mp hm
    have hself := habout e he
    cases e with
    | opened op =>
      cases heq
      exact absurd (hid.symm.trans hself) hne
    | issued _ => cases heq
    | posted _ _ _ _ => cases heq
    | credited _ _ => cases heq
    | gatewayCall _ _ => cases heq

/-- The phase after a log that settles: the one from before, or SUCCEEDED or FAILED. -/
theorem phase_of_settling {L : Books} {hold : Hold String String OperationStatus ℤ}
    (hsettling : ∀ e ∈ events, Settling e)
    (h : (eventBook.run L events).holds.find? id = some hold) :
    (∃ before, L.holds.find? id = some before ∧ before.phase = hold.phase) ∨
      hold.phase = .succeeded ∨ hold.phase = .failed := by
  rw [eventBook_run] at h
  rcases phase_origin h with hbefore | ⟨acc, dReserved, dCommitted, hm⟩ | ⟨opened, hm, -, -⟩
  · exact .inl hbefore
  · obtain ⟨e, he, heq⟩ := List.mem_map.mp hm
    have htarget := hsettling e he
    cases e with
    | posted op _ _ _ =>
      cases heq
      exact .inr htarget
    | issued _ => cases heq
    | opened _ => cases heq
    | credited _ _ => cases heq
    | gatewayCall _ _ => cases heq
  · obtain ⟨e, he, heq⟩ := List.mem_map.mp hm
    have hopened := hsettling e he
    cases e with
    | opened op => exact hopened.elim
    | issued _ => cases heq
    | posted _ _ _ _ => cases heq
    | credited _ _ => cases heq
    | gatewayCall _ _ => cases heq

/-- **The last posting decides.** -/
theorem phase_of_last {L : Books} {before : List Event} {op : FinancialOperation}
    {target : OperationStatus} {dReserved dCommitted : ℤ}
    {hold : Hold String String OperationStatus ℤ}
    (h : (eventBook.run L (before ++ [.posted op target dReserved dCommitted])).holds.find? op.id =
      some hold) : hold.phase = target := by
  rw [Machine.run_append] at h
  have hpost := holds_enter_post (eventBook.run L before) op.id op.id op.mandateId target dReserved
    dCommitted
  rw [if_pos rfl] at hpost
  have h := hpost.symm.trans h
  obtain ⟨first, -, rfl⟩ := Option.map_eq_some_iff.mp h
  rfl

/-- A stored operation is the one that was requested, in the phase of its hold. -/
theorem stored_order {op : FinancialOperation} (hop : op ∈ s.operations.rows) :
    (orders s).find? op.id = some (orderOf op) ∧
      (ledger s).holds.find? op.id = some (operationHold op) := by
  have hfind : s.operations.find? op.id = some op := Table.find?_of_mem hop
  constructor
  · rw [orders_find?, hfind]
    rfl
  · rw [holds_find?, hfind]
    rfl

/-- An operation that was stored before, in the same status. -/
theorem Resting.of_before (h : Resting s) {op : FinancialOperation}
    {before : Hold String String OperationStatus ℤ}
    (horder : (orders s).find? op.id = some (orderOf op))
    (hhold : (ledger s).holds.find? op.id = some before) (hphase : before.phase = op.status) :
    AtRest (links s) op.id op.operationType op.status := by
  rw [orders_find?] at horder
  obtain ⟨op₀, hop₀, hsame⟩ := Option.map_eq_some_iff.mp horder
  rw [holds_find?, hop₀] at hhold
  cases hhold
  have hid : (orderOf op₀).id = (orderOf op).id := congrArg FinancialOperation.id hsame
  have htype : (orderOf op₀).operationType = (orderOf op).operationType :=
    congrArg FinancialOperation.operationType hsame
  have hrest : AtRest (links s) (orderOf op₀).id (orderOf op₀).operationType op₀.status :=
    h op₀ (Table.mem_of_find? hop₀)
  rw [hid, htype] at hrest
  exact hphase ▸ hrest

/-- **Settlements leave every operation at rest.** -/
theorem Resting.of_settling (h : Resting s) (hbooks : ledger s' = eventBook.run (ledger s) events)
    (horders : orders s' = orders s) (hlinks : links s' = links s)
    (hsettling : ∀ e ∈ events, Settling e) : Resting s' := by
  intro op hop
  obtain ⟨horder, hhold⟩ := stored_order hop
  rw [hbooks] at hhold
  rw [horders] at horder
  rw [hlinks]
  rcases phase_of_settling hsettling hhold with ⟨before, hbefore, hphase⟩ | hphase | hphase
  · exact h.of_before horder hbefore hphase
  · have hphase : op.status = .succeeded := hphase
    rw [hphase]
    exact .settled
  · have hphase : op.status = .failed := hphase
    rw [hphase]
    exact .failed

/-- **A log about one operation** leaves the others at rest, with a link of its own at most. -/
theorem Resting.of_about (h : Resting s) (hbooks : ledger s' = eventBook.run (ledger s) events)
    (horders : ∀ id', id' ≠ id → (orders s').find? id' = (orders s).find? id')
    (hlinks : links s' = links s ∨ ∃ order, links s' = links s ++ [(id, order)])
    (habout : ∀ e ∈ events, About id e)
    (hself : ∀ op, s'.operations.find? id = some op →
      AtRest (links s') op.id op.operationType op.status) : Resting s' := by
  intro op hop
  by_cases hid : op.id = id
  · exact hself op (hid ▸ Table.find?_of_mem hop)
  · obtain ⟨horder, hhold⟩ := stored_order hop
    rw [hbooks] at hhold
    rw [horders op.id hid] at horder
    obtain ⟨before, hbefore, hphase⟩ := phase_of_others habout hid hhold
    have hrest := h.of_before horder hbefore hphase
    rcases hlinks with he | ⟨order, he⟩
    · rw [he]
      exact hrest
    · rw [he]
      exact hrest.append (Ne.symm hid)

end Rules

/-! ### Dispatches -/

section Dispatches

variable {env : Platform} {settings : Settings} {gateway : GatewayAnswers} {mandate : Mandate}
  {operation : FinancialOperation} {payload : JsonValue.Dict} {s s' : Store}

/-- What the gateway execution has no branch for. -/
theorem type_of_notDispatched
    (h : (attemptGateway env gateway operation payload).2 = .ok .notDispatched) :
    operation.operationType = .capturePayment ∨ operation.operationType = .cancelPaymentLink := by
  have hmap {α : Type} {x : Except String α} {f : α → Dispatched}
      (hf : ∀ a, f a ≠ .notDispatched) : x.map f ≠ .ok .notDispatched := by
    intro hx
    obtain ⟨a, -, ha⟩ := except_map_eq_ok hx
    exact hf a ha
  unfold attemptGateway at h
  split at h
  · unfold attemptOrder at h
    split at h
    · cases h
    · exact absurd h (hmap fun _ he => by cases he)
  · unfold attemptPaymentLink at h
    split at h
    · cases h
    · exact absurd h (hmap fun _ he => by cases he)
  · unfold attemptRefund at h
    dsimp only at h
    split at h
    · split at h
      · cases h
      · exact absurd h (hmap fun _ he => by cases he)
    · cases h
  · exact .inl ‹_›
  · exact .inr ‹_›

/-- **How a dispatch ends**, by its last posting. -/
theorem dispatch_ends (s : Store) :
    ((executeGatewayOperation env gateway mandate operation payload s).events = [] ∧
        links (executeGatewayOperation env gateway mandate operation payload s).store = links s ∧
        (operation.operationType = .capturePayment ∨
          operation.operationType = .cancelPaymentLink)) ∨
      ∃ before target dReserved dCommitted,
        (executeGatewayOperation env gateway mandate operation payload s).events =
          before ++ [.posted operation target dReserved dCommitted] ∧
        ((target = .succeeded ∨ target = .failed) ∨ target = .executing ∧
          ∃ order, links (executeGatewayOperation env gateway mandate operation payload s).store =
              links s ++ [(operation.id, order)] ∧
            (operation.operationType = .createOrder ∧ (∃ orderId, order = some orderId) ∨
              operation.operationType = .createPaymentLink ∧ order = none)) := by
  unfold executeGatewayOperation
  match hattempt : (attemptGateway env gateway operation payload).2 with
  | .ok .notDispatched =>
    have hcalls := attemptGateway_end hattempt
    simp only [hattempt]
    generalize (attemptGateway env gateway operation payload).1 = calls at hcalls ⊢
    cases hcalls with
    | aside => exact .inl ⟨rfl, trivial, type_of_notDispatched hattempt⟩
  | .ok (.executing tx) =>
    have hend := attemptGateway_end hattempt
    simp only [hattempt]
    refine .inr ⟨_, .executing, 0, 0, rfl, .inr ⟨rfl, tx.gatewayOrderId, ?_, ?_⟩⟩
    · rw [← (attemptGateway_dispatched hattempt (.inl rfl)).1]
      exact List.map_append
    · generalize (attemptGateway env gateway operation payload).1 = calls at hend
      cases hend with
      | ordered htype _ _ _ horder => exact .inl ⟨htype, _, horder⟩
      | linked htype _ horder => exact .inr ⟨htype, horder⟩
  | .ok (.settled tx) =>
    simp only [hattempt]
    exact .inr ⟨_, .succeeded, _, _, rfl, .inl (.inl rfl)⟩
  | .error text =>
    simp only [hattempt]
    exact .inr ⟨_, .failed, _, _, rfl, .inl (.inr rfl)⟩

/-- Every observation of a dispatch is about its operation. -/
theorem about_dispatch {s₀ : Store} :
    ∀ e ∈ (executeGatewayOperation env gateway mandate operation payload s₀).events,
      About operation.id e := by
  intro e he
  rcases executeGatewayOperation_events he with ⟨_, -, rfl⟩ | rfl | rfl | rfl
  · trivial
  · rfl
  · rfl
  · rfl

/-- **What a dispatch leaves is at rest.** -/
theorem atRest_of_dispatch (front : List Event) {s₀ : Store}
    {op' reserved : FinancialOperation} {dReserved dCommitted : ℤ} (hid : reserved.id = operation.id)
    (hbooks : ledger s' = eventBook.run (ledger s) (front ++
      .posted reserved .reserved dReserved dCommitted ::
        (executeGatewayOperation env gateway mandate operation payload s₀).events))
    (hlinks : links s' =
      links (executeGatewayOperation env gateway mandate operation payload s₀).store)
    (hbefore : links s₀ = links s) (hnone : ∀ link ∈ links s, link.1 ≠ operation.id)
    (hop' : s'.operations.find? operation.id = some op')
    (htype : op'.operationType = operation.operationType) :
    AtRest (links s') op'.id op'.operationType op'.status := by
  have hself : op'.id = operation.id := Table.key_of_find? hop'
  have hhold : (ledger s').holds.find? operation.id = some (operationHold op') := by
    rw [holds_find?, hop']
    rfl
  rw [hbooks] at hhold
  rw [hself, htype]
  rcases @dispatch_ends env gateway mandate operation payload s₀ with
    ⟨hevents, hsame, haside⟩ | ⟨before, target, dr, dc, hevents, hend⟩
  · rw [hevents, ← hid] at hhold
    have hphase : op'.status = .reserved := phase_of_last hhold
    rw [hphase, hlinks, hsame, hbefore]
    exact .aside haside hnone
  · rw [hevents, ← List.cons_append, ← List.append_assoc] at hhold
    have hphase : op'.status = target := phase_of_last hhold
    rw [hphase]
    rcases hend with (rfl | rfl) | ⟨rfl, order, hadded, hkind⟩
    · exact .settled
    · exact .failed
    · have hlink : (operation.id, order) ∈ links s' := by
        rw [hlinks, hadded]
        exact List.mem_append_right _ (List.mem_singleton_self _)
      rcases hkind with ⟨htype, orderId, rfl⟩ | ⟨htype, rfl⟩
      · exact .ordered htype ⟨orderId, hlink⟩
      · exact .linked htype hlink

end Dispatches

/-! ### Steps -/

section Steps

variable {env : Platform} {settings : Settings} {s s' : Store} {a : Action} {events : List Event}

/-- The type of an operation is that of its order. -/
theorem type_of_order {op op' : FinancialOperation} {id : String}
    (hop : s.operations.find? id = some op) (horder : (orders s).find? id = some (orderOf op')) :
    op.operationType = op'.operationType := by
  rw [orders_find?, hop] at horder
  have htype : (orderOf op).operationType = (orderOf op').operationType :=
    congrArg FinancialOperation.operationType (Option.some.inj horder)
  exact htype

/-- What is declined or parked is at rest. -/
theorem atRest_of_decline (front : List Event) {declined op' : FinancialOperation}
    {target : OperationStatus} (htarget : target = .policyRejected ∨ target = .requiresApproval)
    (hbooks : ledger s' = eventBook.run (ledger s) (front ++ [.posted declined target 0 0]))
    (hlinks : links s' = links s) (hnone : ∀ link ∈ links s, link.1 ≠ declined.id)
    (hop' : s'.operations.find? declined.id = some op') :
    AtRest (links s') op'.id op'.operationType op'.status := by
  have hself : op'.id = declined.id := Table.key_of_find? hop'
  have hhold : (ledger s').holds.find? declined.id = some (operationHold op') := by
    rw [holds_find?, hop']
    rfl
  rw [hbooks] at hhold
  have hphase : op'.status = target := phase_of_last hhold
  rw [hphase, hlinks, hself]
  rcases htarget with rfl | rfl
  · exact .rejected hnone
  · exact .waiting hnone

/-- **A request** leaves its operation rejected, parked or dispatched. -/
theorem resting_requested {payload : OperationCreate} {headers : CallerAuth.CallerHeaders}
    {inputs : RequestInputs} {agent : Agent} {mandate : Mandate} {result : PolicyEvaluationResult}
    (h : Resting s) (ho : OneLink s)
    (hreq : Requested env settings payload headers inputs s events s' agent mandate result) :
    Resting s' := by
  have hruled := hreq.explained.ruled
  have hbooks := hreq.explained.books
  have horders (id : String) (hne : id ≠ inputs.id) :
      (orders s').find? id = (orders s).find? id := by
    rw [Table.find?_insert hreq.ordered]
    exact if_neg hne
  have horder : (orders s').find? inputs.id =
      some (orderOf (newOperation env payload inputs)) := Table.find?_insert_self hreq.ordered
  have hopened {op : FinancialOperation} {rest : List Event}
      (hr : eventBook.Along EventRule (ledger s) (.opened op :: rest)) :
      ∀ link ∈ links s, link.1 ≠ op.id := by
    intro link hm heq
    obtain ⟨hold, hfind, -⟩ := ho.dispatched link hm
    rw [heq, hr.1.2.2.1] at hfind
    cases hfind
  cases hreq.decided with
  | rejected _ _ ht =>
    have hlinks : links s' = links s := congrArg (List.map linkOf) ht
    refine h.of_about hbooks horders (.inl hlinks) (fun e he => ?_) fun op hop =>
      atRest_of_decline [_] (.inl rfl) hbooks hlinks (hopened hruled) hop
    rcases List.mem_pair.mp he with rfl | rfl
    · rfl
    · rfl
  | parked _ _ ht =>
    have hlinks : links s' = links s := congrArg (List.map linkOf) ht
    refine h.of_about hbooks horders (.inl hlinks) (fun e he => ?_) fun op hop =>
      atRest_of_decline [_] (.inr rfl) hbooks hlinks (hopened hruled) hop
    rcases List.mem_pair.mp he with rfl | rfl
    · rfl
    · rfl
  | @dispatched s₀ _ _ done hdone ht =>
    subst hdone
    have hbefore : links s₀ = links s := congrArg (List.map linkOf) ht
    have hadded := executeGatewayOperation_links env inputs.gateway mandate
      ((withDetails result (newOperation env payload inputs)).moveTo .reserved) payload.payload s₀
    have hnone := hopened hruled
    rw [hbefore] at hadded
    refine h.of_about hbooks horders hadded (fun e he => ?_) fun op hop =>
      atRest_of_dispatch [_] rfl hbooks rfl hbefore hnone hop (type_of_order hop horder)
    rcases List.mem_cons.mp he with rfl | he
    · rfl
    · rcases List.mem_cons.mp he with rfl | he
      · rfl
      · exact about_dispatch e he

/-- **An approval** too. -/
theorem resting_approved {approval : HumanApprovalRequest} {gateway : GatewayAnswers}
    {op : FinancialOperation} {mandate : Mandate} (h : Resting s)
    (hop : s.operations.find? op.id = some op) (hstatus : op.status = .requiresApproval)
    (hexplained : Explained s events s') (horders : orders s' = orders s)
    (happ : Approved env approval gateway op mandate s events s') : Resting s' := by
  have hbooks := hexplained.books
  have hnone : ∀ link ∈ links s, link.1 ≠ op.id := by
    have hrest := h op (Table.mem_of_find? hop)
    rw [hstatus] at hrest
    cases hrest with
    | waiting hnone => exact hnone
  have horder : (orders s').find? op.id = some (orderOf op) := by
    rw [horders, orders_find?, hop]
    rfl
  have hsame (id : String) (_ : id ≠ op.id) : (orders s').find? id = (orders s).find? id := by
    rw [horders]
  cases happ with
  | rejected _ ht =>
    have hlinks : links s' = links s := congrArg (List.map linkOf) ht
    refine h.of_about hbooks hsame (.inl hlinks) (fun e he => ?_) fun op' hop' =>
      atRest_of_decline [] (.inl rfl) hbooks hlinks hnone hop'
    rw [List.mem_singleton.mp he]
    rfl
  | @dispatched s₀ _ _ done hdone ht =>
    subst hdone
    have hbefore : links s₀ = links s := congrArg (List.map linkOf) ht
    have hadded := executeGatewayOperation_links env gateway mandate
      (grantApproval approval.approvedById op) op.payload s₀
    rw [hbefore] at hadded
    refine h.of_about hbooks hsame hadded (fun e he => ?_) fun op' hop' =>
      atRest_of_dispatch [] rfl hbooks rfl hbefore hnone hop' (type_of_order hop' horder)
    rcases List.mem_cons.mp he with rfl | he
    · rfl
    · have habout := about_dispatch e he
      exact habout

/-- **Every action leaves every operation at rest.** -/
theorem resting_step (h : Resting s) (ho : OneLink s) (hstep : Step env settings s a events s') :
    Resting s' := by
  have hsettling (hrequest : ∀ payload headers inputs, a ≠ .request payload headers inputs)
      (happrove : ∀ id approval now gateway, a ≠ .approve id approval now gateway) :
      ∀ e ∈ events, Settling e := by
    rcases hstep.dispatch_cases with ⟨payload, headers, inputs, _, _, _, rfl, -⟩ |
      ⟨id, approval, now, gateway, _, _, rfl, -⟩ | hsettling
    · exact absurd rfl (hrequest payload headers inputs)
    · exact absurd rfl (happrove id approval now gateway)
    · exact hsettling
  have hbooks := hstep.books
  cases hstep with
  | refused => exact h
  | requested hreq => exact resting_requested h ho hreq
  | approved hfound hstatus _ hexp hord happ =>
    exact resting_approved h (Store.find?_of_operationByOperationId hfound).1 hstatus hexp hord happ
  | verified _ _ _ hord _ hlinks =>
    exact h.of_settling hbooks hord hlinks (hsettling (by simp) (by simp))
  | delivered hdelivered =>
    exact h.of_settling hbooks hdelivered.explained.2 hdelivered.links (hsettling (by simp) (by simp))
  | swept _ hord hlinks _ =>
    exact h.of_settling hbooks hord hlinks (hsettling (by simp) (by simp))
  | created _ => exact h
  | delegated _ => exact h
  | suspended hcascaded => exact h.of_same hcascaded.only.operations hcascaded.only.transactions
  | revoked hcascaded => exact h.of_same hcascaded.only.operations hcascaded.only.transactions
  | activated _ _ => exact h
  | agentChanged => exact h

end Steps

/-! ### Runs -/

section Runs

variable {env : Platform} {settings : Settings} {host : Host} {s s' : Store}
  {j : List JournalEntry}

theorem settling_processed {eventData eventType : JsonValue.Json} {done : Store × List Event}
    (h : Processed env eventData s eventType done) : ∀ e ∈ done.2, Settling e := by
  cases h with
  | ignored => exact fun e he => absurd he List.not_mem_nil
  | captured _ _ _ _ hflight =>
    obtain ⟨dReserved, dCommitted, hwrite⟩ := captureBudget_write hflight
    intro e he
    rw [List.mem_singleton.mp he, hwrite.event]
    exact .inl rfl
  | failed _ _ _ _ hflight =>
    obtain ⟨dReserved, dCommitted, hwrite⟩ := failureBudget_write hflight
    intro e he
    rw [List.mem_singleton.mp he, hwrite.event]
    exact .inr rfl
  | refunded _ _ _ _ _ =>
    intro e he
    rw [List.mem_singleton.mp he]
    trivial

theorem resting_anyStep (hsound : Sound s) (h : Resting s) (hstep : AnyStep env settings s j s') :
    Resting s' := by
  cases hstep with
  | called c _ =>
    have hcall := answer_step env settings s c
    generalize answer env settings s c = done at hcall ⊢
    obtain ⟨s', events⟩ := done
    cases hcall with
    | control hcontrol => exact resting_step h hsound.oneLink hcontrol
    | silent => exact h
    | reissued _ => exact h
  | captured hcaptured =>
    have hprocessed := processDomainWebhookEvent_spec hcaptured
    exact h.of_settling hprocessed.explained.1.books hprocessed.explained.2
      (processed_links hprocessed) (settling_processed hprocessed)
  | enrolled principals agents _ => exact h
  | cleared inputs _ => exact resting_empty rfl

/-- The settlement of the third act leaves every operation at rest. -/
theorem resting_converge {op : FinancialOperation} (h : Resting s) : Resting (converge op s) := by
  intro row hrow
  obtain ⟨row₀, hrow₀, rfl⟩ : ∃ row₀ ∈ s.operations.rows,
      (if Keyed.key row₀ = op.id then row₀.moveTo .succeeded else row₀) = row :=
    List.mem_map.mp hrow
  split
  · exact .settled
  · exact h row₀ hrow₀

/-- **In every state of a run every operation is at rest.** -/
theorem resting_run (env : Platform) (settings : Settings) (host : Host) {d : AgentRoutes.Dataset}
    (hsound : Sound d.store) (h : Resting d.store) (calls : List DeploymentCall) :
    Resting ((deployment env settings host).run d calls).store := by
  have hkept := @deployment_keeps env settings host (fun s => Sound s ∧ Resting s)
    (fun _ _ _ hI hstep => ⟨sound_step hI.1 hstep, resting_anyStep hI.1 hI.2 hstep⟩)
    (fun _ _ hI _ => ⟨sound_converge hI.1, resting_converge hI.2⟩) d ⟨hsound, h⟩ calls
  exact hkept.2

end Runs

end MandatePlane.RestingOperations

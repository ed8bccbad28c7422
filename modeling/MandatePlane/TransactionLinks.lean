import MandatePlane.ControlPlane

/-!
# One transaction for an operation

A transaction is inserted when an operation is dispatched, and an operation is
dispatched once: after its reservation it is never again INITIATED or waiting for an
approval.  So no operation has two transactions, and with them two gateway orders.
-/

namespace MandatePlane.TransactionLinks

open DomainModel KeyedTable HoldLedger LabelledRun LedgerView HostEnvironment JsonValue
open HandlerPostings ControlPlane

/-- The statuses before a dispatch. -/
def Undispatched (status : OperationStatus) : Prop :=
  status = .initiated ∨ status = .requiresApproval

theorem dispatched_of_posting {acc : Option (Account String ℤ)} {amount : ℤ}
    {source target : OperationStatus} {dReserved dCommitted : ℤ}
    (h : Posting acc amount source target dReserved dCommitted) (hsource : ¬ Undispatched source) :
    ¬ Undispatched target := by
  have hne : source ≠ .initiated := fun he => hsource (.inl he)
  intro ht
  cases h with
  | park => exact hne rfl
  | reject => rcases ht with ht | ht <;> cases ht
  | reserve => rcases ht with ht | ht <;> cases ht
  | execute => rcases ht with ht | ht <;> cases ht
  | commit => rcases ht with ht | ht <;> cases ht
  | release => rcases ht with ht | ht <;> cases ht
  | commitUncovered => rcases ht with ht | ht <;> cases ht
  | releaseUncovered => rcases ht with ht | ht <;> cases ht
  | commitUnfunded => rcases ht with ht | ht <;> cases ht
  | releaseUnfunded => rcases ht with ht | ht <;> cases ht

/-- The hold with this id is past the dispatch. -/
def PastDispatch (id : String) (L : Books) : Prop :=
  ∃ hold, L.holds.find? id = some hold ∧ ¬ Undispatched hold.phase

/-- An observation that takes no hold back to before its dispatch. -/
def Onward (L : Books) : Event → Prop
  | .posted op target _ _ => L.holds.find? op.id = some (operationHold op) ∧
      (¬ Undispatched op.status → ¬ Undispatched target)
  | _ => True

theorem onward_of_rule {L : Books} {e : Event} (hr : EventRule L e) : Onward L e := by
  cases e with
  | posted op target dReserved dCommitted => exact ⟨hr.1, dispatched_of_posting hr.2⟩
  | issued _ => trivial
  | credited _ _ => trivial
  | gatewayCall _ _ => trivial
  | opened _ => trivial

theorem pastDispatch_enter {L : Books} {e : Event} {id : String} (h : PastDispatch id L)
    (ho : Onward L e) : PastDispatch id (eventBook.next L e) := by
  obtain ⟨hold, hfind, hphase⟩ := h
  cases e with
  | issued _ => exact ⟨hold, hfind, hphase⟩
  | credited _ _ => exact ⟨hold, hfind, hphase⟩
  | gatewayCall _ _ => exact ⟨hold, hfind, hphase⟩
  | opened op => exact ⟨hold, holds_enter_hold hfind, hphase⟩
  | posted op target dReserved dCommitted =>
    have hpost := holds_enter_post L op.id id op.mandateId target dReserved dCommitted
    by_cases hid : id = op.id
    · subst hid
      rw [if_pos rfl, ho.1] at hpost
      rw [ho.1] at hfind
      cases hfind
      exact ⟨_, hpost, ho.2 hphase⟩
    · rw [if_neg hid, hfind] at hpost
      exact ⟨hold, hpost, hphase⟩

/-- Past the dispatch for good. -/
theorem pastDispatch_run {L : Books} {events : List Event} {id : String} (h : PastDispatch id L)
    (ho : eventBook.Along Onward L events) : PastDispatch id (eventBook.run L events) :=
  Machine.inv_run (fun _ _ h ho => pastDispatch_enter h ho) h ho

/-- A log that begins with a reservation takes the operation past its dispatch. -/
theorem pastDispatch_reserved {L : Books} {op : FinancialOperation} {dReserved dCommitted : ℤ}
    {events : List Event}
    (hr : eventBook.Along EventRule L (.posted op .reserved dReserved dCommitted :: events)) :
    PastDispatch op.id (eventBook.run L (.posted op .reserved dReserved dCommitted :: events)) := by
  have hfirst : PastDispatch op.id
      (eventBook.next L (.posted op .reserved dReserved dCommitted)) := by
    refine ⟨(operationHold op).moveTo .reserved, ?_, ?_⟩
    · refine (holds_enter_post L op.id op.id op.mandateId .reserved _ _).trans ?_
      rw [if_pos rfl, hr.1.1]
      rfl
    · intro ht
      rcases ht with ht | ht <;> cases ht
  have hrest := pastDispatch_run hfirst (Machine.along_mono (fun _ _ hr => onward_of_rule hr) hr.2)
  exact hrest

/-- A dispatch links the operation it dispatches, if any. -/
theorem executeGatewayOperation_links (env : Platform) (gateway : RazorpayClient.GatewayAnswers)
    (mandate : Mandate) (operation : FinancialOperation) (payload : Dict) (s : Store) :
    links (OperationRoutes.executeGatewayOperation env gateway mandate operation payload s).store =
        links s ∨
      ∃ order, links (OperationRoutes.executeGatewayOperation env gateway mandate operation payload
        s).store = links s ++ [(operation.id, order)] := by
  unfold OperationRoutes.executeGatewayOperation
  match hattempt : (OperationRoutes.attemptGateway env gateway operation payload).2 with
  | .ok .notDispatched =>
    simp only [hattempt]
    exact .inl trivial
  | .ok (.executing tx) =>
    simp only [hattempt]
    refine .inr ⟨tx.gatewayOrderId, ?_⟩
    rw [← (attemptGateway_dispatched hattempt (.inl rfl)).1]
    exact List.map_append
  | .ok (.settled tx) =>
    simp only [hattempt]
    refine .inr ⟨tx.gatewayOrderId, ?_⟩
    rw [← (attemptGateway_dispatched hattempt (.inr rfl)).1]
    exact List.map_append
  | .error text =>
    simp only [hattempt]
    exact .inl rfl

section Links

variable {env : Platform} {settings : Settings} {s s' : Store} {a : Action} {events : List Event}

/-- No step takes an operation back to before its dispatch, a second verification neither. -/
theorem step_onward (h : Step env settings s a events s') :
    eventBook.Along Onward (ledger s) events := by
  rcases h.ruled_or_verified with hruled | ⟨op, hop, rfl⟩
  · exact Machine.along_mono (fun _ _ hr => onward_of_rule hr) hruled
  · refine ⟨⟨?_, fun _ ht => ?_⟩, trivial⟩
    · rw [holds_find?, hop]
      rfl
    · rcases ht with ht | ht <;> cases ht

/-- The operation a link is added for has not been dispatched before and has been afterwards. -/
theorem link_added (h : Step env settings s a events s') :
    links s' = links s ∨ ∃ id order, links s' = links s ++ [(id, order)] ∧
      (∀ op, s.operations.find? id = some op → Undispatched op.status) ∧
      PastDispatch id (ledger s') := by
  have hsame {s₁ : Store} (h : s₁.transactions = s.transactions) : links s₁ = links s :=
    congrArg (List.map linkOf) h
  cases h with
  | refused => exact .inl rfl
  | requested h =>
    have hruled := h.explained.ruled
    have hbooks := h.explained.books
    cases h.decided with
    | rejected _ _ ht => exact .inl (hsame ht)
    | parked _ _ ht => exact .inl (hsame ht)
    | @dispatched s₀ _ _ done hdone hbefore =>
      subst hdone
      rcases executeGatewayOperation_links env _ _ _ _ s₀ with he | ⟨order, he⟩
      · exact .inl (he.trans (hsame hbefore))
      · refine .inr ⟨_, order, he.trans (congrArg (· ++ _) (hsame hbefore)), fun op hop => ?_, ?_⟩
        · -- the id of a request is new
          have hnew := hruled.1.2.2.1
          rw [holds_find?] at hnew
          have hnone := Option.map_eq_none_iff.mp hnew
          exact absurd (hop.symm.trans hnone) (by simp)
        · rw [hbooks]
          have hpast := pastDispatch_reserved hruled.2
          exact hpast
  | @approved _ _ _ _ _ _ op _ _ hstatus _ hexplained _ h =>
    have hruled := hexplained.ruled
    have hbooks := hexplained.books
    cases h with
    | rejected _ ht => exact .inl (hsame ht)
    | @dispatched s₀ _ _ done hdone hbefore =>
      subst hdone
      rcases executeGatewayOperation_links env _ _ _ _ s₀ with he | ⟨order, he⟩
      · exact .inl (he.trans (hsame hbefore))
      · refine .inr ⟨op.id, order, he.trans (congrArg (· ++ _) (hsame hbefore)), fun op₀ hop => ?_, ?_⟩
        · have hhold := hruled.1.1
          rw [holds_find?, hop] at hhold
          have hphase : op₀.status = op.status :=
            congrArg Hold.phase (Option.some.inj hhold)
          exact .inr (hphase.trans hstatus)
        · rw [hbooks]
          exact pastDispatch_reserved hruled
  | verified _ _ _ _ _ hlinks => exact .inl hlinks
  | delivered h => exact .inl h.links
  | swept _ _ hlinks _ => exact .inl hlinks
  | created _ => exact .inl rfl
  | delegated _ => exact .inl rfl
  | suspended h => exact .inl (hsame h.only.transactions)
  | revoked h => exact .inl (hsame h.only.transactions)
  | activated _ _ => exact .inl rfl
  | agentChanged => exact .inl rfl

/-- No operation has two transactions, and only dispatched operations have one. -/
structure OneLink (s : Store) : Prop where
  single : ((links s).map Prod.fst).Nodup
  dispatched : ∀ link ∈ links s, PastDispatch link.1 (ledger s)

theorem oneLink_step (h : Step env settings s a events s') (ho : OneLink s) : OneLink s' := by
  have hkept : ∀ link ∈ links s, PastDispatch link.1 (ledger s') := by
    intro link hm
    rw [h.books]
    exact pastDispatch_run (ho.dispatched link hm) (step_onward h)
  rcases link_added h with he | ⟨id, order, he, hundispatched, hpast⟩
  · refine ⟨?_, ?_⟩ <;> rw [he]
    · exact ho.single
    · exact hkept
  · refine ⟨?_, fun link hm => ?_⟩
    · rw [he, List.map_append, List.map_singleton, List.nodup_append]
      refine ⟨ho.single, List.nodup_singleton _, fun id' hm id'' hm' heq => ?_⟩
      rw [List.mem_singleton] at hm'
      obtain ⟨link, hlink, hfst⟩ := List.mem_map.mp hm
      obtain ⟨hold, hfind, hphase⟩ := ho.dispatched link hlink
      rw [hfst, heq, hm', holds_find?] at hfind
      obtain ⟨op, hop, rfl⟩ := Option.map_eq_some_iff.mp hfind
      exact hphase (hundispatched op hop)
    · rw [he] at hm
      rcases List.mem_append.mp hm with hm | hm
      · exact hkept link hm
      · rw [List.mem_singleton.mp hm]
        exact hpast

end Links

end MandatePlane.TransactionLinks
